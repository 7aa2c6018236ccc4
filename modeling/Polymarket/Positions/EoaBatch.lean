import Polymarket.Effect
import Polymarket.Evm.Transaction
import Polymarket.Positions.ConditionIds

/-! Batches that an externally owned account sends, one transaction for each call, and
what is reported when one of them fails. -/

set_option autoImplicit false

namespace Polymarket.Positions

open Orders (Bytes OrderSigner fromHex toHex)
open Evm (EvmLegacyTransaction EvmSignedTransaction evmSignLegacyTransaction)
open Evm.Abi (parseUint256Word)

/-! ## The node and the account -/

/-- What the requests throw derives from `std::exception`. -/
abbrev StandardError := { error : CppError // error.isStandard = true }

structure EvmTransactionReceipt where
  success : Bool
deriving DecidableEq, Repr

/-- The answers of the node: each request may return any value or throw, by the number of
requests made before it. -/
structure EoaNode where
  chainId : Nat → Except StandardError UInt64
  getTransactionCount : Nat → Except StandardError String
  gasPrice : Nat → Except StandardError String
  estimateGas : Nat → Except StandardError String
  sendRawTransaction : Nat → String → Except StandardError String
  /-- The polls for a receipt that are made before the deadline. -/
  receipts : Nat → String → List (Except StandardError (Option EvmTransactionReceipt))

structure EoaAccount where
  signer : OrderSigner
  chainId : UInt64
  node : EoaNode
  signsStandard : ∀ hash error, signer.signHash hash = .error error → error.isStandard = true

/-- A call whose data is a `std::string`. -/
abbrev StoredCall := { call : ContractCall // call.data.toList.length < 2 ^ 63 }

/-- A raw transaction that the node took, and the hash it reported. -/
structure Broadcast where
  signed : EvmSignedTransaction
  nodeHash : String

structure EoaState where
  chainVerified : Bool := false
  requests : Nat := 0
  /-- Not in the code: every transaction for which `send_raw_transaction` has returned. -/
  broadcasts : List Broadcast := []

abbrev Eoa := Effect CppError EoaState

/-- One request. -/
def request {α : Type} (answer : Nat → Except StandardError α) : Eoa α := fun state =>
  ((answer state.requests).mapError Subtype.val, { state with requests := state.requests + 1 })

/-! ## One transaction -/

/-- A quantity in hex without leading zeros. -/
def toQuantity (value : String) : Except CppError String := do
  let word ← parseUint256Word value
  match ((toHex word.val).toList.drop 2).dropWhile (· == '0') with
  | [] => .ok "0x0"
  | digits => .ok ("0x" ++ String.ofList digits)

section Account

variable (account : EoaAccount)

def setVerified : Eoa Unit := fun state => (.ok (), { state with chainVerified := true })

def verifyChain : Eoa Unit := do
  let nodeChain ← request account.node.chainId
  if nodeChain ≠ account.chainId then
    Effect.lift (.error (.runtimeError
      ("RPC node is on chain " ++ toString nodeChain.toNat ++ ", expected " ++ toString account.chainId.toNat)))
  else setVerified

def ensureChain : Eoa Unit := fun state =>
  if state.chainVerified then (.ok (), state) else verifyChain account state

/-- The first part of `send_from_eoa`: nothing is sent yet. -/
def signFromEoa (call : StoredCall) : Eoa EvmSignedTransaction := do
  ensureChain account
  let value ← Effect.lift (toQuantity call.val.value)
  let nonce ← request account.node.getTransactionCount
  let gasPrice ← request account.node.gasPrice
  let gasLimit ← request account.node.estimateGas
  Effect.lift (evmSignLegacyTransaction account.signer {
    nonce := nonce, gasPrice := gasPrice, gasLimit := gasLimit, to_ := call.val.to_, value := value,
    data := call.val.data, chainId := account.chainId, dataFits := call.property })

def sendRawTransaction (signed : EvmSignedTransaction) : Eoa String := fun state =>
  match account.node.sendRawTransaction state.requests signed.rawTransaction with
  | .ok nodeHash =>
      (.ok nodeHash, { state with
        requests := state.requests + 1, broadcasts := state.broadcasts ++ [⟨signed, nodeHash⟩] })
  | .error error => (.error error.val, { state with requests := state.requests + 1 })

def sendFromEoa (call : StoredCall) : Eoa String := do
  let signed ← signFromEoa account call
  let nodeHash ← sendRawTransaction account signed
  if evmNormalizeHex nodeHash ≠ signed.transactionHash then
    Effect.lift (.error (.runtimeError
      ("RPC node reported hash " ++ nodeHash ++ " for transaction " ++ signed.transactionHash)))
  else pure signed.transactionHash

/-- The polls of `wait_for_receipt`. -/
def pollReceipt (transactionHash : String) :
    List (Except StandardError (Option EvmTransactionReceipt)) → Except StandardError EvmTransactionReceipt
  | [] => .error ⟨.runtimeError ("timed out waiting for transaction " ++ transactionHash), rfl⟩
  | .error error :: _ => .error error
  | .ok none :: later => pollReceipt transactionHash later
  | .ok (some receipt) :: _ =>
      if receipt.success then .ok receipt
      else .error ⟨.runtimeError ("transaction " ++ transactionHash ++ " reverted"), rfl⟩

def waitForReceipt (transactionHash : String) : Eoa EvmTransactionReceipt :=
  request fun requests => pollReceipt transactionHash (account.node.receipts requests transactionHash)

/-! ## The batch -/

structure PartialBatchError where
  submittedHashes : List String
  failedCallIndex : Nat
  callCount : Nat
  cause : CppError

/-- `partial_batch_message`. -/
def PartialBatchError.what (error : PartialBatchError) : String :=
  "EOA batch failed at call " ++ toString error.failedCallIndex ++ " of " ++ toString error.callCount ++
    " after submitting " ++ String.intercalate ", " error.submittedHashes ++ ": " ++ error.cause.what

inductive EoaFailure where
  | original (error : CppError)
  | partialBatch (error : PartialBatchError)

/-- The handler of the loop. -/
def caught (hashes : List String) (index count : Nat) (error : CppError) : EoaFailure :=
  if error.isStandard then
    if hashes.isEmpty then .original error else .partialBatch ⟨hashes, index, count, error⟩
  else .original error

/-- One pass of the loop: the call is sent, and awaited unless it is the last one. The
hashes of the pass stay when the wait throws. -/
def executeCall (call : StoredCall) (last : Bool) (hashes : List String) (state : EoaState) :
    Except CppError Unit × List String × EoaState :=
  match sendFromEoa account call state with
  | (.error error, next) => (.error error, hashes, next)
  | (.ok hash, next) =>
      if last then (.ok (), hashes ++ [hash], next)
      else
        match waitForReceipt account hash next with
        | (.error error, after) => (.error error, hashes ++ [hash], after)
        | (.ok _, after) => (.ok (), hashes ++ [hash], after)

def executeCalls (count : Nat) : List StoredCall → Nat → List String → EoaState →
    Except EoaFailure (List String) × EoaState
  | [], _, hashes, state => (.ok hashes, state)
  | call :: rest, index, hashes, state =>
      match executeCall account call (index + 1 == count) hashes state with
      | (.error error, hashes, next) => (.error (caught hashes index count error), next)
      | (.ok (), hashes, next) => executeCalls count rest (index + 1) hashes next

/-- The hashes of the handle, or the exception. -/
def executeFromEoa (calls : List StoredCall) (state : EoaState) : Except EoaFailure (List String) × EoaState :=
  executeCalls account calls.length calls 0 [] state

end Account

/-! ## What a batch reports -/

/-- The node has reported a transaction under the hash of its raw bytes. -/
def Agrees (account : EoaAccount) (broadcast : Broadcast) : Prop :=
  ∃ raw, fromHex broadcast.signed.rawTransaction = .ok raw ∧
    evmNormalizeHex broadcast.nodeHash = toHex (account.signer.keccak256 raw)

def submitted (broadcasts : List Broadcast) : List String := broadcasts.map (·.signed.transactionHash)

/-- The exception tells what was sent: a partial batch has the hash of every transaction
that the node took, and after any other exception nothing was sent. -/
structure Reported (failure : EoaFailure) (broadcasts : List Broadcast) : Prop where
  sent : broadcasts ≠ [] → ∃ error, failure = .partialBatch error ∧ error.submittedHashes = submitted broadcasts
  unsent : (∀ error, failure ≠ .partialBatch error) → broadcasts = []

theorem reported_caught {hashes : List String} {broadcasts : List Broadcast} (recorded : hashes = submitted broadcasts)
    {error : CppError} (standard : error.isStandard = true) (index count : Nat) :
    Reported (caught hashes index count error) broadcasts := by
  unfold caught
  rw [if_pos standard]
  by_cases none : hashes.isEmpty = true
  · have empty : broadcasts = [] := by
      rw [recorded] at none
      exact List.map_eq_nil_iff.mp (List.isEmpty_iff.mp none)
    rw [if_pos none]
    exact ⟨fun some => absurd empty some, fun _ => empty⟩
  · rw [if_neg none]
    exact ⟨fun _ => ⟨_, rfl, recorded⟩, fun other => absurd rfl (other _)⟩

/-- A transaction the handler does not know of is not reported. -/
theorem not_reported_caught {hashes : List String} {broadcasts : List Broadcast} (recorded : hashes = submitted broadcasts)
    (broadcast : Broadcast) {error : CppError} (index count : Nat) :
    ¬Reported (caught hashes index count error) (broadcasts ++ [broadcast]) := by
  intro reported
  obtain ⟨found, partly, same⟩ := reported.sent (List.append_ne_nil_of_right_ne_nil _ (List.cons_ne_nil _ _))
  have known : found.submittedHashes = hashes := by
    unfold caught at partly
    split at partly
    · split at partly
      · cases partly
      · cases partly
        rfl
    · cases partly
  rw [known, recorded, submitted, submitted, List.map_append] at same
  exact absurd (congrArg List.length same) (by
    rw [List.length_append, List.length_map, List.length_map, List.length_singleton]
    omega)

/-! ## One transaction goes out at most -/

/-- Nothing is sent, and what is thrown is standard. -/
abbrev Silent {α : Type} (source : Eoa α) : Prop :=
  Effect.Quiet EoaState.broadcasts (fun error => error.isStandard = true) source

section Account

variable {account : EoaAccount}

theorem silent_request {α : Type} (answer : Nat → Except StandardError α) : Silent (request answer) where
  view_eq _ := rfl
  allows state error thrown := by
    change (answer state.requests).mapError Subtype.val = .error error at thrown
    cases answered : answer state.requests with
    | ok value =>
        rw [answered] at thrown
        cases thrown
    | error found =>
        rw [answered] at thrown
        cases thrown
        exact found.property

theorem silent_verifyChain : Silent (verifyChain account) := by
  apply (silent_request _).bind
  intro nodeChain
  split
  · apply Effect.Quiet.lift
    rintro _ ⟨⟩
    rfl
  · exact ⟨fun _ => rfl, fun _ _ thrown => by cases thrown⟩

theorem silent_ensureChain : Silent (ensureChain account) where
  view_eq state := by
    unfold ensureChain
    split
    · rfl
    · exact silent_verifyChain.view_eq state
  allows state error thrown := by
    unfold ensureChain at thrown
    split at thrown
    · cases thrown
    · exact silent_verifyChain.allows state error thrown

theorem toQuantity_throws {value : String} {error : CppError} (failed : toQuantity value = .error error) :
    error.isStandard = true := by
  obtain thrown | ⟨_, -, failed⟩ := bind_error failed
  · obtain ⟨_, rfl⟩ := Evm.Abi.parseUint256Word_throws thrown
    rfl
  · split at failed
    · cases failed
    · cases failed

theorem silent_signFromEoa (call : StoredCall) : Silent (signFromEoa account call) := by
  apply silent_ensureChain.bind
  intro _
  apply (Effect.Quiet.lift fun _ => toQuantity_throws).bind
  intro value
  apply (silent_request _).bind
  intro nonce
  apply (silent_request _).bind
  intro gasPrice
  apply (silent_request _).bind
  intro gasLimit
  exact Effect.Quiet.lift fun _ => Evm.evmSignLegacyTransaction_standard account.signsStandard

theorem signFromEoa_hash {call : StoredCall} {state next : EoaState} {signed : EvmSignedTransaction}
    (ran : signFromEoa account call state = (.ok signed, next)) :
    ∃ raw, fromHex signed.rawTransaction = .ok raw ∧ signed.transactionHash = toHex (account.signer.keccak256 raw) := by
  obtain ⟨_, -, ⟨⟩⟩ | ⟨_, _, -, ran⟩ := Effect.bind_cases ran
  obtain ⟨_, -, ⟨⟩⟩ | ⟨_, _, -, ran⟩ := Effect.bind_cases ran
  obtain ⟨_, -, ⟨⟩⟩ | ⟨_, _, -, ran⟩ := Effect.bind_cases ran
  obtain ⟨_, -, ⟨⟩⟩ | ⟨_, _, -, ran⟩ := Effect.bind_cases ran
  obtain ⟨_, -, ⟨⟩⟩ | ⟨_, _, -, ran⟩ := Effect.bind_cases ran
  exact Evm.evmSignLegacyTransaction_hash (Prod.mk.inj ran).1

/-- What one call of `send_from_eoa` does: it fails before anything is sent, it sends
one transaction that the node reports under another hash and throws, or it returns the
hash of the one it has sent. -/
theorem sendFromEoa_cases {call : StoredCall} {state after : EoaState} {result : Except CppError String}
    (ran : sendFromEoa account call state = (result, after)) :
    (∃ error, result = .error error ∧ error.isStandard = true ∧ after.broadcasts = state.broadcasts) ∨
      ∃ broadcast, after.broadcasts = state.broadcasts ++ [broadcast] ∧
        ((∃ error, result = .error error ∧ error.isStandard = true ∧ ¬Agrees account broadcast) ∨
          result = .ok broadcast.signed.transactionHash ∧ Agrees account broadcast) := by
  obtain ⟨error, failed, rfl⟩ | ⟨signed, prepared, signs, sends⟩ := Effect.bind_cases ran
  · left
    refine ⟨error, rfl, (silent_signFromEoa call).allows state error (by rw [failed]), ?_⟩
    have kept := (@silent_signFromEoa account call).view_eq state
    rw [failed] at kept
    exact kept
  have kept := (@silent_signFromEoa account call).view_eq state
  rw [signs] at kept
  obtain ⟨raw, read, hash⟩ := signFromEoa_hash signs
  have agrees (nodeHash : String) :
      Agrees account ⟨signed, nodeHash⟩ ↔ evmNormalizeHex nodeHash = signed.transactionHash := by
    constructor
    · rintro ⟨other, found, same⟩
      rw [read] at found
      cases found
      rw [same, hash]
    · exact fun same => ⟨raw, read, same.trans hash⟩
  obtain ⟨error, failed, rfl⟩ | ⟨nodeHash, sent, taken, checks⟩ := Effect.bind_cases sends
  · left
    unfold sendRawTransaction at failed
    split at failed
    · cases failed
    · next found _ =>
      cases failed
      exact ⟨_, rfl, found.property, kept⟩
  · right
    unfold sendRawTransaction at taken
    split at taken
    · cases taken
      refine ⟨⟨signed, nodeHash⟩, ?_, ?_⟩
      · split at checks
        · cases checks
          rw [← kept]
        · cases checks
          rw [← kept]
      · split at checks
        · next differs =>
          cases checks
          exact .inl ⟨_, rfl, rfl, fun same => differs ((agrees nodeHash).mp same)⟩
        · next same =>
          cases checks
          exact .inr ⟨rfl, (agrees nodeHash).mpr (not_not.mp same)⟩
    · cases taken

/-! ## The whole batch -/

/-- The hashes the loop knows of are those of what was sent, and the node agrees on all. -/
structure Recorded (account : EoaAccount) (hashes : List String) (state : EoaState) : Prop where
  hashes : hashes = submitted state.broadcasts
  agrees : ∀ broadcast ∈ state.broadcasts, Agrees account broadcast

theorem Recorded.kept {hashes : List String} {state after : EoaState} (recorded : Recorded account hashes state)
    (kept : after.broadcasts = state.broadcasts) : Recorded account hashes after where
  hashes := by
    rw [kept]
    exact recorded.hashes
  agrees := by
    rw [kept]
    exact recorded.agrees

theorem Recorded.append {hashes : List String} {state after : EoaState} (recorded : Recorded account hashes state)
    {broadcast : Broadcast} (sent : after.broadcasts = state.broadcasts ++ [broadcast])
    (agrees : Agrees account broadcast) : Recorded account (hashes ++ [broadcast.signed.transactionHash]) after where
  hashes := by
    rw [sent, submitted, List.map_append, recorded.hashes]
    rfl
  agrees := by
    intro one member
    rw [sent] at member
    obtain old | new := List.mem_append.mp member
    · exact recorded.agrees one old
    · rw [List.mem_singleton.mp new]
      exact agrees

/-- What one pass of the loop does: it keeps the record, with or without an exception, or
it throws after the node took a transaction and reported another hash. -/
theorem executeCall_cases {call : StoredCall} {last : Bool} {hashes known : List String} {state after : EoaState}
    {result : Except CppError Unit} (recorded : Recorded account hashes state)
    (ran : executeCall account call last hashes state = (result, known, after)) :
    (Recorded account known after ∧ ∀ error, result = .error error → error.isStandard = true) ∨
      ∃ error broadcast, result = .error error ∧ known = hashes ∧ after.broadcasts = state.broadcasts ++ [broadcast] ∧
        ¬Agrees account broadcast := by
  unfold executeCall at ran
  split at ran
  · next thrown next sends =>
    cases ran
    obtain ⟨error, ⟨⟩, standard, kept⟩ | ⟨broadcast, sent, ⟨error, ⟨⟩, -, differs⟩ | ⟨⟨⟩, -⟩⟩ := sendFromEoa_cases sends
    · left
      constructor
      · exact recorded.kept kept
      · rintro _ ⟨⟩
        exact standard
    · exact .inr ⟨_, broadcast, rfl, rfl, sent, differs⟩
  · next hash next sends =>
    obtain ⟨error, ⟨⟩, -⟩ | ⟨broadcast, sent, ⟨error, ⟨⟩, -⟩ | ⟨⟨⟩, agrees⟩⟩ := sendFromEoa_cases sends
    left
    have appended := recorded.append sent agrees
    split at ran
    · cases ran
      exact ⟨appended, nofun⟩
    · have quiet : Silent (waitForReceipt account broadcast.signed.transactionHash) := silent_request _
      have kept := quiet.view_eq next
      split at ran
      · next error later waited =>
        cases ran
        rw [waited] at kept
        constructor
        · exact appended.kept kept
        · rintro _ ⟨⟩
          exact quiet.allows next error (by rw [waited])
      · next receipt later waited =>
        cases ran
        rw [waited] at kept
        constructor
        · exact appended.kept kept
        · nofun

/-- The loop reports what was sent exactly when the node has agreed on every hash. -/
theorem executeCalls_reports {count : Nat} {calls : List StoredCall} {index : Nat} {hashes : List String}
    {state after : EoaState} {result : Except EoaFailure (List String)} (recorded : Recorded account hashes state)
    (ran : executeCalls account count calls index hashes state = (result, after)) :
    (∀ failure, result = .error failure → Reported failure after.broadcasts) ↔
      ∀ broadcast ∈ after.broadcasts, Agrees account broadcast := by
  induction calls generalizing index hashes state with
  | nil =>
      cases ran
      exact iff_of_true nofun recorded.agrees
  | cons call rest ih =>
      unfold executeCalls at ran
      split at ran
      · next error known next passed =>
        cases ran
        obtain ⟨held, standard⟩ | ⟨_, broadcast, -, rfl, sent, differs⟩ := executeCall_cases recorded passed
        · refine iff_of_true ?_ held.agrees
          rintro _ ⟨⟩
          exact reported_caught held.hashes (standard error rfl) index count
        · apply iff_of_false
          · intro reports
            have reported := reports _ rfl
            rw [sent] at reported
            exact not_reported_caught recorded.hashes broadcast index count reported
          · intro all
            exact differs (all broadcast (by rw [sent]; exact List.mem_append_right _ List.mem_cons_self))
      · next known next passed =>
        obtain ⟨held, -⟩ | ⟨_, _, ⟨⟩, -⟩ := executeCall_cases recorded passed
        exact ih held ran

section Passes

variable {call : StoredCall} {rest : List StoredCall} {hashes known : List String} {state next after : EoaState}
  {error : CppError} {index count : Nat}

theorem executeCall_unsent (sends : sendFromEoa account call state = (.error error, next)) (last : Bool)
    (hashes : List String) : executeCall account call last hashes state = (.error error, hashes, next) := by
  unfold executeCall
  rw [sends]

theorem executeCall_received {hash : String} {receipt : EvmTransactionReceipt}
    (sends : sendFromEoa account call state = (.ok hash, next))
    (received : waitForReceipt account hash next = (.ok receipt, after)) (hashes : List String) :
    executeCall account call false hashes state = (.ok (), hashes ++ [hash], after) := by
  unfold executeCall
  rw [sends]
  dsimp only
  rw [if_neg Bool.false_ne_true, received]

theorem executeCalls_failed
    (failed : executeCall account call (index + 1 == count) hashes state = (.error error, known, after)) :
    executeCalls account count (call :: rest) index hashes state = (.error (caught known index count error), after) := by
  rw [executeCalls, failed]

theorem executeCalls_passed
    (passed : executeCall account call (index + 1 == count) hashes state = (.ok (), known, next)) :
    executeCalls account count (call :: rest) index hashes state =
      executeCalls account count rest (index + 1) known next := by
  rw [executeCalls, passed]

end Passes

/-- A failed batch reports every transaction that was sent exactly when the node has
reported each of them under the hash of its raw bytes. -/
theorem failed_batch_reports (calls : List StoredCall) (chainVerified : Bool) (requests : Nat) :
    (∀ failure, (executeFromEoa account calls ⟨chainVerified, requests, []⟩).1 = .error failure →
      Reported failure (executeFromEoa account calls ⟨chainVerified, requests, []⟩).2.broadcasts) ↔
      ∀ broadcast ∈ (executeFromEoa account calls ⟨chainVerified, requests, []⟩).2.broadcasts,
        Agrees account broadcast := by
  apply executeCalls_reports _ (rfl : executeFromEoa account calls ⟨chainVerified, requests, []⟩ = _)
  exact ⟨rfl, nofun⟩

end Account

section Misreport

def fixedSigner : OrderSigner where
  address := "0x9d8A62f656a8d1615C1294fd71e9CFb3E4855A4F"
  chainId := 137
  keccak256 := fun bytes => (Evm.Abi.mixedHash bytes).val
  v2DomainHash := fun _ => .ok []
  signHash := fun _ => .ok (toHex (Evm.protectedR ++ Evm.protectedS ++ [27]))
  currentTimeMillis := "0"

def otherHash : String := "0x0000000000000000000000000000000000000000000000000000000000000000"

/-- A node that answers all but two kinds of requests alike. -/
def plainNode (estimateGas : Nat → Except StandardError String) (sendRawTransaction : String → String) : EoaNode where
  chainId := fun _ => .ok 137
  getTransactionCount := fun _ => .ok "0x9"
  gasPrice := fun _ => .ok "0x4a817c800"
  estimateGas := estimateGas
  sendRawTransaction := fun _ raw => .ok (sendRawTransaction raw)
  receipts := fun _ _ => [.ok (some ⟨true⟩)]

def plainAccount (node : EoaNode) : EoaAccount where
  signer := fixedSigner
  chainId := 137
  node := node
  signsStandard := nofun

def plainCall : StoredCall := ⟨{ to_ := "0x3535353535353535353535353535353535353535", data := "0x" }, by decide⟩

def plainTransaction : EvmLegacyTransaction where
  nonce := "0x9"
  gasPrice := "0x4a817c800"
  gasLimit := "0x5208"
  to_ := "0x3535353535353535353535353535353535353535"
  value := "0x0"
  dataFits := Evm.noData_fits

theorem toQuantity_zero : toQuantity "0" = .ok "0x0" := by decide +kernel

theorem plainTransaction_signed : ∃ signed, evmSignLegacyTransaction fixedSigner plainTransaction = .ok signed ∧
    signed.transactionHash ≠ evmNormalizeHex otherHash := by
  have differs : ((evmSignLegacyTransaction fixedSigner plainTransaction).toOption.map fun signed =>
      signed.transactionHash == evmNormalizeHex otherHash) = some false := by decide +kernel
  cases signs : evmSignLegacyTransaction fixedSigner plainTransaction with
  | error error =>
      rw [signs] at differs
      cases differs
  | ok signed =>
      rw [signs] at differs
      exact ⟨signed, rfl, beq_eq_false_iff_ne.mp (Option.some.inj differs)⟩

section Node

variable {estimateGas : Nat → Except StandardError String} {sendRawTransaction : String → String}

theorem plainCall_signed (estimated : estimateGas 3 = .ok "0x5208") : ∃ signed,
    signFromEoa (plainAccount (plainNode estimateGas sendRawTransaction)) plainCall ⟨false, 0, []⟩ =
        (.ok signed, ⟨true, 4, []⟩) ∧
      evmSignLegacyTransaction fixedSigner plainTransaction = .ok signed ∧
      signed.transactionHash ≠ evmNormalizeHex otherHash := by
  obtain ⟨signed, signs, differs⟩ := plainTransaction_signed
  refine ⟨signed, ?_, signs, differs⟩
  generalize named : plainAccount (plainNode estimateGas sendRawTransaction) = account
  have chain : ensureChain account ⟨false, 0, []⟩ = (.ok (), ⟨true, 1, []⟩) := by rw [← named]; rfl
  have value : Effect.lift (toQuantity plainCall.val.value) (⟨true, 1, []⟩ : EoaState) = (.ok "0x0", ⟨true, 1, []⟩) :=
    congrArg (·, _) toQuantity_zero
  have nonce : request account.node.getTransactionCount ⟨true, 1, []⟩ = (.ok "0x9", ⟨true, 2, []⟩) := by rw [← named]; rfl
  have gasPrice : request account.node.gasPrice ⟨true, 2, []⟩ = (.ok "0x4a817c800", ⟨true, 3, []⟩) := by rw [← named]; rfl
  have gasLimit : request account.node.estimateGas ⟨true, 3, []⟩ = (.ok "0x5208", ⟨true, 4, []⟩) := by
    rw [← named]
    unfold request plainAccount plainNode
    dsimp only
    rw [estimated]
    rfl
  have signing : Effect.lift (evmSignLegacyTransaction account.signer { plainTransaction with chainId := account.chainId })
      (⟨true, 4, []⟩ : EoaState) = (.ok signed, ⟨true, 4, []⟩) := by
    rw [← named]
    unfold Effect.lift
    exact congrArg (·, _) signs
  unfold signFromEoa
  rw [Effect.bind_ok chain, Effect.bind_ok value, Effect.bind_ok nonce, Effect.bind_ok gasPrice, Effect.bind_ok gasLimit]
  exact signing

end Node

/-- A node that takes every transaction and reports it under another hash. -/
def misreportedAccount : EoaAccount := plainAccount (plainNode (fun _ => .ok "0x5208") fun _ => otherHash)

/-- The transaction is sent, and the exception does not tell of it. -/
theorem sent_transaction_unreported : ∃ failure after,
    executeFromEoa misreportedAccount [plainCall] ⟨false, 0, []⟩ = (.error failure, after) ∧ after.broadcasts ≠ [] ∧
      ∀ error, failure ≠ .partialBatch error := by
  obtain ⟨signed, prepared, -, differs⟩ : ∃ signed, signFromEoa misreportedAccount plainCall ⟨false, 0, []⟩ =
      (.ok signed, ⟨true, 4, []⟩) ∧ _ := plainCall_signed rfl
  have taken : sendRawTransaction misreportedAccount signed ⟨true, 4, []⟩ =
      (.ok otherHash, ⟨true, 5, [⟨signed, otherHash⟩]⟩) := rfl
  obtain ⟨error, sends⟩ : ∃ error, sendFromEoa misreportedAccount plainCall ⟨false, 0, []⟩ =
      (.error error, ⟨true, 5, [⟨signed, otherHash⟩]⟩) := by
    unfold sendFromEoa
    rw [Effect.bind_ok prepared, Effect.bind_ok taken, if_pos differs.symm]
    exact ⟨_, rfl⟩
  refine ⟨caught [] 0 1 error, ⟨true, 5, [⟨signed, otherHash⟩]⟩, ?_, List.cons_ne_nil _ _, ?_⟩
  · exact executeCalls_failed (executeCall_unsent sends true [])
  · intro found
    unfold caught
    split
    · nofun
    · nofun

/-- What a node reports that hashes the raw bytes. -/
def ownHash (raw : String) : String :=
  match fromHex raw with
  | .ok bytes => toHex (Evm.Abi.mixedHash bytes).val
  | .error _ => ""

/-- A node that no longer estimates gas after the first transaction. -/
def revertingAccount : EoaAccount :=
  plainAccount (plainNode (fun index => if index < 4 then .ok "0x5208" else .error ⟨.runtimeError "execution reverted", rfl⟩)
    ownHash)

theorem revertingAccount_stops (broadcasts : List Broadcast) :
    sendFromEoa revertingAccount plainCall ⟨true, 6, broadcasts⟩ =
      (.error (.runtimeError "execution reverted"), ⟨true, 9, broadcasts⟩) := by
  have value : Effect.lift (toQuantity plainCall.val.value) (⟨true, 6, broadcasts⟩ : EoaState) =
      (.ok "0x0", ⟨true, 6, broadcasts⟩) := congrArg (·, _) toQuantity_zero
  have chain : ensureChain revertingAccount ⟨true, 6, broadcasts⟩ = (.ok (), ⟨true, 6, broadcasts⟩) := rfl
  have signing : signFromEoa revertingAccount plainCall ⟨true, 6, broadcasts⟩ =
      (.error (.runtimeError "execution reverted"), ⟨true, 9, broadcasts⟩) := by
    unfold signFromEoa
    rw [Effect.bind_ok chain, Effect.bind_ok value]
    rfl
  unfold sendFromEoa
  change Effect.andThen _ _ _ = _
  rw [Effect.andThen, signing]

theorem revertingAccount_fails : ∃ signed nodeHash, executeFromEoa revertingAccount [plainCall, plainCall] ⟨false, 0, []⟩ =
    (.error (.partialBatch ⟨[signed.transactionHash], 1, 2, .runtimeError "execution reverted"⟩),
      ⟨true, 9, [⟨signed, nodeHash⟩]⟩) ∧ Agrees revertingAccount ⟨signed, nodeHash⟩ := by
  obtain ⟨signed, prepared, signs, -⟩ : ∃ signed, signFromEoa revertingAccount plainCall ⟨false, 0, []⟩ =
      (.ok signed, ⟨true, 4, []⟩) ∧ _ := plainCall_signed rfl
  obtain ⟨raw, read, hash⟩ := Evm.evmSignLegacyTransaction_hash signs
  have reported : ownHash signed.rawTransaction = signed.transactionHash := by
    unfold ownHash
    rw [read, hash]
    rfl
  have normal : evmNormalizeHex signed.transactionHash = signed.transactionHash := by
    rw [hash]
    exact evmNormalizeHex_eq (Orders.fromHex_toHex _)
  have taken : sendRawTransaction revertingAccount signed ⟨true, 4, []⟩ =
      (.ok signed.transactionHash, ⟨true, 5, [⟨signed, signed.transactionHash⟩]⟩) := by
    rw [← reported]
    rfl
  have sends : sendFromEoa revertingAccount plainCall ⟨false, 0, []⟩ =
      (.ok signed.transactionHash, ⟨true, 5, [⟨signed, signed.transactionHash⟩]⟩) := by
    unfold sendFromEoa
    rw [Effect.bind_ok prepared, Effect.bind_ok taken, if_neg (not_not.mpr normal)]
    rfl
  have received : waitForReceipt revertingAccount signed.transactionHash ⟨true, 5, [⟨signed, signed.transactionHash⟩]⟩ =
      (.ok ⟨true⟩, ⟨true, 6, [⟨signed, signed.transactionHash⟩]⟩) := rfl
  have passed : executeCall revertingAccount plainCall (0 + 1 == 2) [] ⟨false, 0, []⟩ =
      (.ok (), [signed.transactionHash], ⟨true, 6, [⟨signed, signed.transactionHash⟩]⟩) :=
    executeCall_received sends received []
  have failed : executeCall revertingAccount plainCall (1 + 1 == 2) [signed.transactionHash]
      ⟨true, 6, [⟨signed, signed.transactionHash⟩]⟩ = (.error (.runtimeError "execution reverted"),
        [signed.transactionHash], ⟨true, 9, [⟨signed, signed.transactionHash⟩]⟩) :=
    executeCall_unsent (revertingAccount_stops _) true _
  refine ⟨signed, signed.transactionHash, ?_, raw, read, normal.trans hash⟩
  change executeCalls revertingAccount 2 [plainCall, plainCall] 0 [] ⟨false, 0, []⟩ = _
  rw [executeCalls_passed passed, executeCalls_failed failed]
  rfl

/-- A batch that fails at its second call tells of the first. -/
theorem failed_batch_reports_second : ∃ failure,
    (executeFromEoa revertingAccount [plainCall, plainCall] ⟨false, 0, []⟩).1 = .error failure ∧
      Reported failure (executeFromEoa revertingAccount [plainCall, plainCall] ⟨false, 0, []⟩).2.broadcasts ∧
      (executeFromEoa revertingAccount [plainCall, plainCall] ⟨false, 0, []⟩).2.broadcasts.length = 1 := by
  obtain ⟨signed, nodeHash, ran, agrees⟩ := revertingAccount_fails
  have each := (@failed_batch_reports revertingAccount [plainCall, plainCall] false 0).mpr
  rw [ran] at each ⊢
  refine ⟨_, rfl, each ?_ _ rfl, rfl⟩
  intro broadcast listed
  rw [List.mem_singleton.mp listed]
  exact agrees

end Misreport

end Polymarket.Positions
