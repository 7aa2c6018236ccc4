import Polymarket.Positions.Calls

/-! Batches of calls packed into one `multiSend` call, and how the contract splits them. -/

set_option autoImplicit false

namespace Polymarket.Positions

open Orders (Bytes fromHex)
open Evm.Abi (Word EvmAbiValue HasShape Vectors parseUint256Word uint256Word evmAbiEncode abiDecode)

/-! ## Packing -/

def kSafeOperationCall : UInt32 := 0

/-- A text that is not hex leaves no bytes. -/
def addressBytes (address label : String) : Except CppError Bytes :=
  match fromHex address with
  | .ok bytes =>
      if bytes.length ≠ 20 then .error (.invalidArgument (label ++ " must be a 20-byte address")) else .ok bytes
  | .error (.invalidArgument _) => .error (.invalidArgument (label ++ " must be a 20-byte address"))
  | .error error => .error error

/-- What one call appends to the packed transactions. -/
def packCall (call : ContractCall) : Except CppError Bytes := do
  let data ← fromHex call.data
  let target ← addressBytes call.to_ "call target"
  let value ← parseUint256Word call.value
  .ok ([kSafeOperationCall.toUInt8] ++ target ++ value.val ++ (uint256Word (UInt64.ofNat data.length)).val ++ data)

def packCalls (calls : List ContractCall) (packed : Bytes) : Except CppError Bytes :=
  calls.foldlM (fun packed call => do
    let record ← packCall call
    .ok (packed ++ record)) packed

def encodeSafeMultisend (keccak256 : String → Word) (calls : List ContractCall) (multisend : String) :
    Except CppError ContractCall :=
  if calls.isEmpty then .error (.invalidArgument "MultiSend needs at least one call")
  else do
    let packed ← packCalls calls []
    .ok { to_ := multisend, data := evmAbiEncodeCall keccak256 "multiSend(bytes)" [.bytes packed] }

/-! ## Splitting -/

/-- A transaction as the contract reads it. -/
structure MultiSendTransaction where
  operation : UInt8
  to_ : Bytes
  value : Nat
  data : Bytes
deriving DecidableEq, Repr

/-- The first transaction, and what stands behind it. -/
def readTransaction : Bytes → Option (MultiSendTransaction × Bytes)
  | [] => none
  | operation :: rest => do
      let value ← Evm.Abi.readWord (rest.drop 20)
      let length ← Evm.Abi.readWord (rest.drop 52)
      let behind := rest.drop 84
      if behind.length < length then none
      else some (⟨operation, rest.take 20, value, behind.take length⟩, behind.drop length)

def readTransactions : Nat → Bytes → Option (List MultiSendTransaction)
  | _, [] => some []
  | 0, _ :: _ => none
  | fuel + 1, first :: rest => do
      let (transaction, behind) ← readTransaction (first :: rest)
      let others ← readTransactions fuel behind
      some (transaction :: others)

/-- All transactions, with nothing left over. -/
def splitTransactions (packed : Bytes) : Option (List MultiSendTransaction) := readTransactions packed.length packed

/-- The transaction is the call. -/
structure Denotes (call : ContractCall) (transaction : MultiSendTransaction) : Prop where
  operation : transaction.operation = 0
  target : fromHex call.to_ = .ok transaction.to_
  width : transaction.to_.length = 20
  value : ∃ word, parseUint256Word call.value = .ok word ∧ word.toNat = transaction.value
  data : fromHex call.data = .ok transaction.data

theorem addressBytes_ok {address label : String} {bytes : Bytes} (read : addressBytes address label = .ok bytes) :
    fromHex address = .ok bytes ∧ bytes.length = 20 := by
  unfold addressBytes at read
  split at read
  · next found source =>
    split at read
    · cases read
    · next width =>
      cases read
      exact ⟨source, not_not.mp width⟩
  · cases read
  · cases read

theorem readWord_word (word : Word) (suffix : Bytes) : Evm.Abi.readWord (word.val ++ suffix) = some word.toNat := by
  have width : word.val.length = 32 := word.property
  rw [Evm.Abi.readWord, if_neg, List.take_left' width]
  · rfl
  · rw [List.length_append, width]
    omega

/-- A packed call is split off as its transaction. -/
theorem readTransaction_packCall {call : ContractCall} {record : Bytes} (packed : packCall call = .ok record)
    (fits : record.length < 2 ^ 64) :
    ∃ transaction, Denotes call transaction ∧ record ≠ [] ∧
      ∀ rest, readTransaction (record ++ rest) = some (transaction, rest) := by
  obtain ⟨data, dataRead, packed⟩ := bind_ok packed
  obtain ⟨target, targetRead, packed⟩ := bind_ok packed
  obtain ⟨value, valueRead, packed⟩ := bind_ok packed
  cases packed
  obtain ⟨targetHex, width⟩ := addressBytes_ok targetRead
  have size : (UInt64.ofNat data.length).toNat = data.length := by
    apply UInt64.toNat_ofNat_of_lt'
    simp only [List.length_append] at fits
    change data.length < 2 ^ 64
    omega
  use ⟨0, target, value.toNat, data⟩
  refine ⟨⟨rfl, targetHex, width, ⟨value, valueRead, rfl⟩, dataRead⟩, List.cons_ne_nil _ _, fun rest => ?_⟩
  have words : value.val.length = 32 := value.property
  have lengthWord : (uint256Word (UInt64.ofNat data.length)).val.length = 32 :=
    (uint256Word (UInt64.ofNat data.length)).property
  have spelled : [kSafeOperationCall.toUInt8] ++ target ++ value.val ++
      (uint256Word (UInt64.ofNat data.length)).val ++ data ++ rest =
      0 :: (target ++ (value.val ++ ((uint256Word (UInt64.ofNat data.length)).val ++ (data ++ rest)))) := by
    simp only [List.append_assoc]
    rfl
  have afterTarget (suffix : Bytes) : (target ++ suffix).drop 20 = suffix := List.drop_left' width
  have afterValue (suffix : Bytes) : (target ++ (value.val ++ suffix)).drop 52 = suffix := by
    rw [← List.append_assoc]
    exact List.drop_left' (by rw [List.length_append, width, words])
  have afterLength : (target ++ (value.val ++ ((uint256Word (UInt64.ofNat data.length)).val ++ (data ++ rest)))).drop 84 =
      data ++ rest := by
    rw [← List.append_assoc, ← List.append_assoc]
    exact List.drop_left' (by rw [List.length_append, List.length_append, width, words, lengthWord])
  rw [spelled, readTransaction]
  rw [afterTarget, readWord_word, Option.bind_eq_bind, Option.bind_some, afterValue, readWord_word, Option.bind_some,
    Evm.Abi.toNat_uint256Word, size]
  dsimp only
  rw [afterLength, if_neg, List.take_left' width, List.take_left, List.drop_left]
  rw [List.length_append]
  omega

theorem packed_ok {calls : List ContractCall} {start packed : Bytes}
    (folded : packCalls calls start = .ok packed) :
    ∃ records, List.Forall₂ (fun call record => packCall call = .ok record) calls records ∧
      packed = start ++ records.flatten := by
  induction calls generalizing start with
  | nil =>
      cases folded
      exact ⟨[], .nil, (List.append_nil _).symm⟩
  | cons call rest ih =>
      rw [packCalls, List.foldlM_cons] at folded
      obtain ⟨next, appended, folded⟩ := bind_ok folded
      obtain ⟨record, made, added⟩ := bind_ok appended
      cases added
      obtain ⟨records, each, joined⟩ := ih folded
      refine ⟨record :: records, .cons made each, ?_⟩
      rw [joined, List.flatten_cons, List.append_assoc]

/-- Every record is split off in front of the next ones. -/
theorem readTransactions_packed {calls : List ContractCall} {records : List Bytes}
    (each : List.Forall₂ (fun call record => packCall call = .ok record) calls records)
    (fits : records.flatten.length < 2 ^ 64) {fuel : Nat} (enough : records.flatten.length ≤ fuel) :
    ∃ transactions, List.Forall₂ Denotes calls transactions ∧
      readTransactions fuel records.flatten = some transactions := by
  induction each generalizing fuel with
  | nil =>
      use []
      constructor
      · exact .nil
      · rw [List.flatten_nil]
        cases fuel with
        | zero => rfl
        | succ fuel => rfl
  | @cons call record calls records made _ ih =>
      rw [List.flatten_cons, List.length_append] at fits enough
      obtain ⟨transaction, denoted, nonempty, read⟩ := readTransaction_packCall made (by omega)
      cases record with
      | nil => exact absurd rfl nonempty
      | cons first tail =>
          rw [List.length_cons] at fits enough
          cases fuel with
          | zero => omega
          | succ fuel =>
              obtain ⟨transactions, others, rest⟩ := @ih (by omega) fuel (by omega)
              use transaction :: transactions
              constructor
              · exact .cons denoted others
              · have front := read records.flatten
                rw [List.cons_append] at front
                rw [List.flatten_cons, List.cons_append, readTransactions, front]
                simp only [Option.bind_eq_bind, Option.bind_some, rest]

theorem length_le_bytesEncoding (data : Bytes) : data.length ≤ (EvmAbiValue.bytes data).encoding.length := by
  have longer : data.length ≤ (Evm.Abi.padded data).length := by
    unfold Evm.Abi.padded
    split
    · rw [List.length_append]
      exact Nat.le_add_right _ _
    · exact le_refl _
  rw [EvmAbiValue.encoding, List.length_append]
  exact le_trans longer (Nat.le_add_left _ _)

theorem encodeSafeMultisend_packed {keccak256 : String → Word} {calls : List ContractCall} {multisend : String}
    {call : ContractCall} (accepted : encodeSafeMultisend keccak256 calls multisend = .ok call) :
    ∃ packed, packCalls calls [] = .ok packed ∧ call.data = evmAbiEncodeCall keccak256 "multiSend(bytes)" [.bytes packed] := by
  unfold encodeSafeMultisend at accepted
  split at accepted
  · cases accepted
  · obtain ⟨packed, folded, made⟩ := bind_ok accepted
    cases made
    exact ⟨packed, folded, rfl⟩

/-- The bytes of the call data of an accepted batch, its packed argument and the transactions in it. -/
theorem encodeSafeMultisend_ok {keccak256 : String → Word} {calls : List ContractCall} {multisend : String}
    {call : ContractCall} (accepted : encodeSafeMultisend keccak256 calls multisend = .ok call)
    (fits : call.data.toList.length < 2 ^ 63) :
    ∃ bytes packed transactions, fromHex call.data = .ok bytes ∧
      abiDecode [.bytes] (bytes.drop 4) = some [.bytes packed] ∧ splitTransactions packed = some transactions ∧
      List.Forall₂ Denotes calls transactions := by
  obtain ⟨packed, folded, made⟩ := encodeSafeMultisend_packed accepted
  rw [made] at fits ⊢
  obtain ⟨records, each, joined⟩ := packed_ok folded
  rw [List.nil_append] at joined
  obtain ⟨selector, four, read⟩ := fromHex_evmAbiEncodeCall keccak256 "multiSend(bytes)" [.bytes packed]
  have encoded : (evmAbiEncode [.bytes packed]).length < 2 ^ 64 := by
    rw [length_evmAbiEncodeCall] at fits
    omega
  have inner : packed.length ≤ (evmAbiEncode [.bytes packed]).length :=
    le_trans (length_le_bytesEncoding packed) (Evm.Abi.length_le_evmAbiEncode List.mem_cons_self)
  have whole : records.flatten.length < 2 ^ 64 := by
    rw [← joined]
    omega
  obtain ⟨transactions, denoted, split⟩ := readTransactions_packed each whole (le_refl _)
  have decoded := @Evm.Abi.abiDecode_evmAbiEncode [.bytes packed] [.bytes] (.cons .bytes .nil)
    (fun value member => by rw [List.mem_singleton.mp member]; exact .bytes) encoded
  refine ⟨_, packed, transactions, read, ?_, ?_, denoted⟩
  · rw [List.drop_left' four]
    exact decoded
  · rw [splitTransactions, joined]
    exact split

/-- A batch is in the call data of its `multiSend`: the packed argument splits into its
calls, in order and with nothing left over. Batches with equal call data are equal. -/
theorem multisend_lossless {keccak256 : String → Word} {calls : List ContractCall} {multisend : String}
    {call : ContractCall} (accepted : encodeSafeMultisend keccak256 calls multisend = .ok call)
    (fits : call.data.toList.length < 2 ^ 63) :
    ∃ bytes packed transactions, fromHex call.data = .ok bytes ∧
      abiDecode [.bytes] (bytes.drop 4) = some [.bytes packed] ∧ splitTransactions packed = some transactions ∧
      List.Forall₂ Denotes calls transactions ∧
      ∀ others otherMultisend other, encodeSafeMultisend keccak256 others otherMultisend = .ok other →
        other.data = call.data → List.Forall₂ Denotes others transactions := by
  obtain ⟨bytes, packed, transactions, read, decoded, split, denoted⟩ := encodeSafeMultisend_ok accepted fits
  refine ⟨bytes, packed, transactions, read, decoded, split, denoted, ?_⟩
  intro others otherMultisend other otherAccepted same
  obtain ⟨otherBytes, otherPacked, otherTransactions, otherRead, otherDecoded, otherSplit, otherDenoted⟩ :=
    encodeSafeMultisend_ok otherAccepted (by rw [same]; exact fits)
  rw [same, read] at otherRead
  cases otherRead
  rw [decoded] at otherDecoded
  cases otherDecoded
  rw [split] at otherSplit
  cases otherSplit
  exact otherDenoted

section Example

def multisendSelector (_ : String) : Word := ⟨[0x8d, 0x80, 0xff, 0x0a] ++ List.replicate 28 0, rfl⟩

def mergeAndTransfer : List ContractCall :=
  [{ to_ := "0xAdA100Db00Ca00073811820692005400218FcE1f", data := "0x72ce4275" },
    { to_ := "0x3535353535353535353535353535353535353535", data := "0x", value := "0x10" }]

theorem mergeAndTransfer_size {keccak256 : String → Word} {multisend : String} {call : ContractCall}
    (accepted : encodeSafeMultisend keccak256 mergeAndTransfer multisend = .ok call) : call.data.toList.length = 522 := by
  obtain ⟨packed, folded, made⟩ := encodeSafeMultisend_packed accepted
  have length : (packCalls mergeAndTransfer []).map (fun packed => (evmAbiEncode [.bytes packed]).length) = .ok 256 := by
    decide +kernel
  rw [folded] at length
  have encoded : (evmAbiEncode [.bytes packed]).length = 256 := Except.ok.inj length
  rw [made, length_evmAbiEncodeCall, encoded]

theorem multisend_lossless_two : ∃ transactions, List.Forall₂ Denotes mergeAndTransfer transactions := by
  obtain ⟨call, accepted⟩ := exists_ok
    (encodeSafeMultisend multisendSelector mergeAndTransfer "0xA238CBeb142c10Ef7Ad8442C6D1f9E89e07e7761") (by decide +kernel)
  have size := mergeAndTransfer_size accepted
  obtain ⟨_, _, transactions, -, -, -, denoted, -⟩ := multisend_lossless accepted (by omega)
  exact ⟨transactions, denoted⟩

end Example

end Polymarket.Positions
