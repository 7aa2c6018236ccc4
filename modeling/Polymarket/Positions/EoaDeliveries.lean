import Polymarket.Positions.Contracts
import Polymarket.Positions.EoaBatch

/-! What a batch of an externally owned account puts on the chain: the transactions that
the node took carry the first calls of the batch, one each and in order, and every one of
them but the last was mined before the next was sent. -/

set_option autoImplicit false

namespace Polymarket.Positions

open Orders (Bytes fromHex toHex hexText)
open Evm (EvmLegacyTransaction EvmSignedTransaction TransactionFields evmSignLegacyTransaction)
open Evm.Abi (Word parseUint256Word hexToWord)

/-! ## Quantities -/

/-- A quantity spells the number of the text it was made of. -/
theorem toQuantity_ok {value quantity : String} (made : toQuantity value = .ok quantity) :
    ∃ word, parseUint256Word value = .ok word ∧ parseUint256Word quantity = .ok word := by
  obtain ⟨word, parsed, made⟩ := bind_ok made
  refine ⟨word, parsed, ?_⟩
  have whole : (toHex word.val).toList.drop 2 = (hexText word.val).toList := by
    rw [toHex, String.toList_append]
    rfl
  have number := (Evm.Abi.hexNumber_dropZeros (hexText word.val).toList).trans (Orders.hexText_digits word.val).2
  have hex := Evm.Abi.dropZeros_hex.mpr (Orders.hexText_digits word.val).1
  rw [whole] at made
  generalize (hexText word.val).toList.dropWhile (· == '0') = digits at made number hex
  have read (text : String) (characters : List Char) (spelled : text.toList = '0' :: 'x' :: characters)
      (nonempty : characters ≠ []) (valid : ∀ digit ∈ characters, isHexDigit digit = true)
      (same : Orders.hexNumber characters = word.toNat) : parseUint256Word text = .ok word := by
    have unmarked : Evm.Abi.secondMarker characters = false := by
      by_contra marked
      exact (Evm.Abi.hexToWord_marked (Bool.not_eq_false _ ▸ marked)).2 valid
    rw [Evm.Abi.parseUint256Word_prefixed (.inl rfl) spelled, if_neg nonempty, Evm.Abi.hexToWord_iff unmarked]
    exact ⟨valid, by rw [same]; exact word.toNat_lt, same.symm⟩
  split at made
  · cases made
    have hexZero : ∀ digit ∈ ['0'], isHexDigit digit = true := by
      intro digit member
      rw [List.mem_singleton.mp member]
      rfl
    exact read "0x0" ['0'] rfl (List.cons_ne_nil _ _) hexZero number
  · next nonempty =>
    cases made
    apply read _ digits _ nonempty hex number
    rw [String.toList_append, @String.toList_ofList digits]
    rfl

/-! ## Raw transactions -/

/-- A legacy transaction as the chain reads it. -/
structure RawTransaction where
  nonce : Nat
  gasPrice : Nat
  gasLimit : Nat
  action : Action
  v : Nat
  r : Nat
  s : Nat
deriving DecidableEq, Repr

def RawTransaction.read (raw : Bytes) : Option RawTransaction :=
  match Rlp.decode raw with
  | some (.list [.bytes nonce, .bytes gasPrice, .bytes gasLimit, .bytes target, .bytes value, .bytes data, .bytes v,
      .bytes r, .bytes s]) =>
      if target.length = 20 then
        some {
          nonce := bigEndianValue nonce, gasPrice := bigEndianValue gasPrice, gasLimit := bigEndianValue gasLimit,
          action := ⟨target, bigEndianValue value, data⟩, v := bigEndianValue v, r := bigEndianValue r,
          s := bigEndianValue s }
      else none
  | _ => none

theorem unsignedFields_of_hash {signer : Orders.OrderSigner} {tx : EvmLegacyTransaction} {hash : Bytes}
    (hashed : Evm.evmLegacyTransactionSigningHash signer tx = .ok hash) : ∃ encoded, Evm.unsignedFields tx = .ok encoded := by
  obtain ⟨preimage, made, -⟩ := bind_ok hashed
  obtain ⟨encoded, accepted, -⟩ := bind_ok made
  exact ⟨encoded, accepted⟩

/-- A signed transaction is read back with the fields it was made of, bound to its chain. -/
theorem evmSignLegacyTransaction_read {signer : Orders.OrderSigner} {tx : EvmLegacyTransaction} {signed : EvmSignedTransaction}
    (accepted : evmSignLegacyTransaction signer tx = .ok signed) :
    ∃ fields : TransactionFields tx, ∃ raw carried, fromHex signed.rawTransaction = .ok raw ∧
      RawTransaction.read raw = some carried ∧ carried.nonce = fields.nonce.toNat ∧
      carried.action = ⟨fields.to_, fields.value.toNat, fields.data⟩ ∧
      (carried.v = 2 * tx.chainId.toNat + 35 ∨ carried.v = 2 * tx.chainId.toNat + 36) := by
  obtain ⟨hash, hashed, rest⟩ := bind_ok accepted
  obtain ⟨text, answered, rest⟩ := bind_ok rest
  obtain ⟨signature, read, rest⟩ := bind_ok rest
  dsimp only at rest
  split at rest
  · cases rest
  · next layout =>
    obtain ⟨width, recovery⟩ := not_or.mp layout
    have whole : signature.length = 65 := not_not.mp width
    obtain ⟨encoded, made⟩ := unsignedFields_of_hash hashed
    obtain ⟨fields, rfl⟩ := Evm.unsignedFields_ok made
    have last : signature.drop 64 = [signature.getD 64 0] := by
      rw [List.drop_eq_getElem_cons (by omega), List.drop_eq_nil_of_le (by omega), List.getD_eq_getElem?_getD,
        List.getElem?_eq_getElem (by omega)]
      rfl
    obtain ⟨recoveryId, valid, known⟩ : ∃ recoveryId : UInt8, (recoveryId = 0 ∨ recoveryId = 1) ∧
        signature.getD 64 0 = 27 + recoveryId := by
      by_cases low : signature.getD 64 0 = 27
      · exact ⟨0, .inl rfl, low⟩
      · exact ⟨1, .inr rfl, not_not.mp fun high => recovery ⟨low, high⟩⟩
    have parts : signature = signature.take 32 ++ (signature.drop 32).take 32 ++ [27 + recoveryId] := by
      rw [← known, ← last, List.append_assoc, show signature.drop 64 = (signature.drop 32).drop 32 by rw [List.drop_drop],
        List.take_append_drop, List.take_append_drop]
    have rSize : (signature.take 32).length = 32 := by
      rw [List.length_take]
      omega
    have sSize : ((signature.drop 32).take 32).length = 32 := by
      rw [List.length_take, List.length_drop]
      omega
    obtain ⟨transactionHash, same⟩ := Evm.evmSignLegacyTransaction_eq fields made hashed answered
      (by rw [← parts]; exact read) rSize sSize valid
    rw [accepted] at same
    cases same
    have decoded := (Evm.rlpEncodeList_fields fields rfl (Evm.signedTail_short fields rSize sSize valid)).2
    use fields, (Rlp.stringList (fields.strings ++ Evm.signedTail tx recoveryId (signature.take 32)
      ((signature.drop 32).take 32))).encode
    use {
      nonce := fields.nonce.toNat, gasPrice := fields.gasPrice.toNat, gasLimit := fields.gasLimit.toNat,
      action := ⟨fields.to_, fields.value.toNat, fields.data⟩, v := 2 * tx.chainId.toNat + 35 + recoveryId.toNat,
      r := bigEndianValue (signature.take 32), s := bigEndianValue ((signature.drop 32).take 32) }
    refine ⟨Orders.fromHex_toHex _, ?_, rfl, rfl, ?_⟩
    · rw [RawTransaction.read, decoded]
      simp only [Rlp.stringList, TransactionFields.strings, Evm.signedTail, List.map_cons, List.map_nil, List.cons_append,
        List.nil_append, fields.toSize, ↓reduceIte, bigEndianValue_bigEndian]
    · obtain rfl | rfl := valid
      · exact .inl rfl
      · exact .inr rfl

/-! ## Deliveries -/

section Account

variable {account : EoaAccount}

/-- The transaction carries the call: the chain reads its action from it, for this chain only. -/
structure Carries (account : EoaAccount) (call : StoredCall) (broadcast : Broadcast) : Prop where
  carried : ∃ raw transaction, fromHex broadcast.signed.rawTransaction = .ok raw ∧
    RawTransaction.read raw = some transaction ∧ call.val.action = some transaction.action ∧
    (transaction.v = 2 * account.chainId.toNat + 35 ∨ transaction.v = 2 * account.chainId.toNat + 36)

/-- What a part of a run has sent for calls: nothing, or one transaction for the first call, and
for the next ones only from a state in which the receipt of its success has been read. -/
inductive Deliveries (account : EoaAccount) : List StoredCall → EoaState → List Broadcast → EoaState → Prop where
  | none {calls : List StoredCall} {state after : EoaState} (kept : after.broadcasts = state.broadcasts) :
      Deliveries account calls state [] after
  | last {call : StoredCall} {rest : List StoredCall} {state after : EoaState} {broadcast : Broadcast}
      (carried : Carries account call broadcast) (sent : after.broadcasts = state.broadcasts ++ [broadcast]) :
      Deliveries account (call :: rest) state [broadcast] after
  | mined {call : StoredCall} {rest : List StoredCall} {state next later after : EoaState} {broadcast : Broadcast}
      {broadcasts : List Broadcast} {receipt : EvmTransactionReceipt} (carried : Carries account call broadcast)
      (agrees : Agrees account broadcast) (sent : next.broadcasts = state.broadcasts ++ [broadcast])
      (waited : waitForReceipt account broadcast.signed.transactionHash next = (.ok receipt, later))
      (success : receipt.success = true) (others : Deliveries account rest later broadcasts after) :
      Deliveries account (call :: rest) state (broadcast :: broadcasts) after

theorem signFromEoa_carries {call : StoredCall} {state next : EoaState} {signed : EvmSignedTransaction}
    (ran : signFromEoa account call state = (.ok signed, next)) (nodeHash : String) :
    Carries account call ⟨signed, nodeHash⟩ := by
  obtain ⟨_, -, ⟨⟩⟩ | ⟨_, _, -, ran⟩ := Effect.bind_cases ran
  obtain ⟨_, -, ⟨⟩⟩ | ⟨quantity, _, made, ran⟩ := Effect.bind_cases ran
  obtain ⟨_, -, ⟨⟩⟩ | ⟨_, _, -, ran⟩ := Effect.bind_cases ran
  obtain ⟨_, -, ⟨⟩⟩ | ⟨_, _, -, ran⟩ := Effect.bind_cases ran
  obtain ⟨_, -, ⟨⟩⟩ | ⟨_, _, -, ran⟩ := Effect.bind_cases ran
  obtain ⟨value, parsed, known⟩ := toQuantity_ok (Prod.mk.inj made).1
  obtain ⟨fields, raw, carried, read, back, -, action, bound⟩ := evmSignLegacyTransaction_read (Prod.mk.inj ran).1
  constructor
  refine ⟨raw, carried, read, back, ?_, bound⟩
  have same : Except.ok fields.value = Except.ok value := fields.valueParsed.symm.trans known
  cases same
  rw [action_eq ⟨fields.toRead, fields.toSize⟩ parsed fields.dataRead, action]

theorem sendFromEoa_carries {call : StoredCall} {state after : EoaState} {result : Except CppError String}
    {broadcast : Broadcast} (ran : sendFromEoa account call state = (result, after))
    (sent : after.broadcasts = state.broadcasts ++ [broadcast]) : Carries account call broadcast := by
  have unsent {next : EoaState} (kept : next.broadcasts = state.broadcasts)
      (appended : next.broadcasts = state.broadcasts ++ [broadcast]) : False := by
    rw [kept] at appended
    exact List.cons_ne_nil _ _ (List.self_eq_append_right.mp appended)
  have quiet := (@silent_signFromEoa account call).view_eq state
  obtain ⟨error, failed, -⟩ | ⟨signed, prepared, signs, sends⟩ := Effect.bind_cases ran
  · rw [failed] at quiet
    exact absurd sent fun appended => unsent quiet appended
  rw [signs] at quiet
  obtain ⟨error, failed, -⟩ | ⟨nodeHash, answered, taken, checks⟩ := Effect.bind_cases sends
  · unfold sendRawTransaction at failed
    split at failed
    · cases failed
    · cases failed
      exact absurd sent fun appended => unsent quiet appended
  · have last : after.broadcasts = answered.broadcasts := by
      split at checks
      · cases checks
        rfl
      · cases checks
        rfl
    unfold sendRawTransaction at taken
    split at taken
    · cases taken
      rw [last] at sent
      have same : prepared.broadcasts ++ [⟨signed, nodeHash⟩] = state.broadcasts ++ [broadcast] := sent
      rw [quiet] at same
      cases List.append_cancel_left same
      exact signFromEoa_carries signs nodeHash
    · cases taken

theorem pollReceipt_ok {transactionHash : String} {polls : List (Except StandardError (Option EvmTransactionReceipt))}
    {receipt : EvmTransactionReceipt} (found : pollReceipt transactionHash polls = .ok receipt) :
    receipt.success = true := by
  induction polls using pollReceipt.induct with
  | case1 => cases found
  | case2 error later => cases found
  | case3 later ih => exact ih found
  | case4 known later success =>
      rw [pollReceipt, if_pos success] at found
      cases found
      exact success
  | case5 known later failure =>
      rw [pollReceipt, if_neg failure] at found
      cases found

theorem waitForReceipt_ok {transactionHash : String} {state after : EoaState} {receipt : EvmTransactionReceipt}
    (waited : waitForReceipt account transactionHash state = (.ok receipt, after)) : receipt.success = true := by
  have polled := (Prod.mk.inj waited).1
  cases answer : pollReceipt transactionHash (account.node.receipts state.requests transactionHash) with
  | error error =>
      dsimp only at polled
      rw [answer] at polled
      cases polled
  | ok found =>
      dsimp only at polled
      rw [answer] at polled
      cases polled
      exact pollReceipt_ok answer

/-- One pass of the loop sends nothing and throws, or it sends one transaction that carries the call. -/
theorem executeCall_delivers {call : StoredCall} {last : Bool} {hashes known : List String} {state after : EoaState}
    {result : Except CppError Unit} (ran : executeCall account call last hashes state = (result, known, after)) :
    (∃ error, result = .error error ∧ after.broadcasts = state.broadcasts) ∨
      ∃ broadcast, Carries account call broadcast ∧ after.broadcasts = state.broadcasts ++ [broadcast] ∧
        ((∃ error, result = .error error) ∨
          result = .ok () ∧ known = hashes ++ [broadcast.signed.transactionHash] ∧ Agrees account broadcast ∧
            (last = true ∨ ∃ next receipt, next.broadcasts = state.broadcasts ++ [broadcast] ∧
              waitForReceipt account broadcast.signed.transactionHash next = (.ok receipt, after) ∧
              receipt.success = true)) := by
  unfold executeCall at ran
  split at ran
  · next thrown next sends =>
    cases ran
    obtain ⟨error, ⟨⟩, -, kept⟩ | ⟨broadcast, sent, -⟩ := sendFromEoa_cases sends
    · exact .inl ⟨_, rfl, kept⟩
    · exact .inr ⟨broadcast, sendFromEoa_carries sends sent, sent, .inl ⟨_, rfl⟩⟩
  · next hash next sends =>
    obtain ⟨error, ⟨⟩, -⟩ | ⟨broadcast, sent, ⟨error, ⟨⟩, -⟩ | ⟨⟨⟩, agrees⟩⟩ := sendFromEoa_cases sends
    have carried := sendFromEoa_carries sends sent
    right
    split at ran
    · next isLast =>
      cases ran
      exact ⟨broadcast, carried, sent, .inr ⟨rfl, rfl, agrees, .inl isLast⟩⟩
    · have quiet : Silent (waitForReceipt account broadcast.signed.transactionHash) := silent_request _
      have kept := quiet.view_eq next
      split at ran
      · next error later waited =>
        cases ran
        rw [waited] at kept
        exact ⟨broadcast, carried, kept.trans sent, .inl ⟨_, rfl⟩⟩
      · next receipt later waited =>
        cases ran
        rw [waited] at kept
        exact ⟨broadcast, carried, kept.trans sent,
          .inr ⟨rfl, rfl, agrees, .inr ⟨next, receipt, sent, waited, waitForReceipt_ok waited⟩⟩⟩

theorem Deliveries.carries {calls : List StoredCall} {state after : EoaState} {broadcasts : List Broadcast}
    (delivered : Deliveries account calls state broadcasts after) :
    List.Forall₂ (Carries account) (calls.take broadcasts.length) broadcasts := by
  induction delivered with
  | none kept => exact .nil
  | last carried sent => exact .cons carried .nil
  | mined carried agrees sent waited success others ih => exact .cons carried ih

/-- What the rest of a batch sends. A partial batch names the call at which it ended. -/
theorem executeCalls_delivers {count : Nat} {calls : List StoredCall} {index : Nat} {hashes : List String}
    {state after : EoaState} {result : Except EoaFailure (List String)} (counted : index + calls.length = count)
    (ran : executeCalls account count calls index hashes state = (result, after)) :
    ∃ broadcasts, after.broadcasts = state.broadcasts ++ broadcasts ∧ Deliveries account calls state broadcasts after ∧
      (∀ known, result = .ok known → broadcasts.length = calls.length ∧ known = hashes ++ submitted broadcasts ∧
        ∀ broadcast ∈ broadcasts, Agrees account broadcast) ∧
      ∀ error, result = .error (.partialBatch error) → error.callCount = count ∧ error.failedCallIndex < count ∧
        (index + broadcasts.length = error.failedCallIndex ∨ index + broadcasts.length = error.failedCallIndex + 1) := by
  induction calls generalizing index hashes state with
  | nil =>
      cases ran
      refine ⟨[], (List.append_nil _).symm, .none rfl, ?_, by simp⟩
      rintro _ ⟨⟩
      exact ⟨rfl, (List.append_nil _).symm, by simp⟩
  | cons call rest ih =>
      rw [List.length_cons] at counted
      have partly {error : CppError} {known : List String} {reported : PartialBatchError}
          (same : caught known index count error = .partialBatch reported) :
          reported.callCount = count ∧ reported.failedCallIndex = index := by
        unfold caught at same
        split at same
        · split at same
          · cases same
          · cases same
            exact ⟨rfl, rfl⟩
        · cases same
      cases one : executeCall account call (index + 1 == count) hashes state with
      | mk outcome behind =>
          obtain ⟨known, next⟩ := behind
          rw [executeCalls, one] at ran
          obtain ⟨error, rfl, kept⟩ | ⟨broadcast, carried, sent, ⟨error, rfl⟩ | ⟨rfl, rfl, agrees, mined⟩⟩ :=
            executeCall_delivers one
          · cases ran
            refine ⟨[], by rw [kept, List.append_nil], .none kept, by simp, ?_⟩
            intro reported same
            obtain ⟨whole, at_⟩ := partly (Except.error.inj same)
            exact ⟨whole, by omega, .inl at_.symm⟩
          · cases ran
            refine ⟨[broadcast], sent, .last carried sent, by simp, ?_⟩
            intro reported same
            obtain ⟨whole, at_⟩ := partly (Except.error.inj same)
            exact ⟨whole, by omega, .inr (by rw [at_]; rfl)⟩
          · obtain ⟨broadcasts, appended, delivered, returned, reported⟩ := ih (by omega) ran
            refine ⟨broadcast :: broadcasts, ?_, ?_, ?_, ?_⟩
            · rw [appended, sent, List.append_assoc]
              rfl
            · obtain isLast | ⟨waiting, receipt, before, waited, success⟩ := mined
              · have none : rest = [] := by
                  apply List.length_eq_zero_iff.mp
                  have same := eq_of_beq isLast
                  omega
                cases none
                cases ran
                cases List.self_eq_append_right.mp appended
                exact .last carried sent
              · exact .mined carried agrees before waited success delivered
            · intro final ok
              obtain ⟨all, spelled, agreed⟩ := returned final ok
              refine ⟨by rw [List.length_cons, List.length_cons, all], ?_, ?_⟩
              · rw [spelled, List.append_assoc]
                rfl
              · intro other listed
                obtain rfl | inside := List.mem_cons.mp listed
                · exact agrees
                · exact agreed other inside
            · intro error failed
              obtain ⟨whole, inside, at_⟩ := reported error failed
              rw [List.length_cons]
              exact ⟨whole, inside, by omega⟩

/-- Whatever the node answers, a batch reaches it as a prefix of its calls: the transactions that
the node took carry the first calls, one each and in order, and the receipt of each was read before
the next was sent. A batch that returns has sent all of them, and a partial one names its last call. -/
theorem eoaBatch_delivered (account : EoaAccount) (calls : List StoredCall) (chainVerified : Bool) (requests : Nat) :
    Deliveries account calls ⟨chainVerified, requests, []⟩
        (executeFromEoa account calls ⟨chainVerified, requests, []⟩).2.broadcasts
        (executeFromEoa account calls ⟨chainVerified, requests, []⟩).2 ∧
      List.Forall₂ (Carries account)
        (calls.take (executeFromEoa account calls ⟨chainVerified, requests, []⟩).2.broadcasts.length)
        (executeFromEoa account calls ⟨chainVerified, requests, []⟩).2.broadcasts ∧
      (∀ known, (executeFromEoa account calls ⟨chainVerified, requests, []⟩).1 = .ok known →
        (executeFromEoa account calls ⟨chainVerified, requests, []⟩).2.broadcasts.length = calls.length ∧
          known = submitted (executeFromEoa account calls ⟨chainVerified, requests, []⟩).2.broadcasts) ∧
      ∀ error, (executeFromEoa account calls ⟨chainVerified, requests, []⟩).1 = .error (.partialBatch error) →
        error.callCount = calls.length ∧ error.failedCallIndex < calls.length ∧
          ((executeFromEoa account calls ⟨chainVerified, requests, []⟩).2.broadcasts.length = error.failedCallIndex ∨
            (executeFromEoa account calls ⟨chainVerified, requests, []⟩).2.broadcasts.length = error.failedCallIndex + 1) := by
  cases ran : executeFromEoa account calls ⟨chainVerified, requests, []⟩ with
  | mk result after =>
      obtain ⟨broadcasts, whole, delivered, returned, reported⟩ := executeCalls_delivers (Nat.zero_add _) ran
      rw [List.nil_append] at whole
      rw [← whole] at delivered
      refine ⟨delivered, delivered.carries, ?_, ?_⟩
      · intro known ok
        obtain ⟨all, spelled, -⟩ := returned known ok
        exact ⟨by rw [whole, all], by rw [whole, spelled, List.nil_append]⟩
      · intro error failed
        obtain ⟨count, inside, at_⟩ := reported error failed
        exact ⟨count, inside, by rw [whole]; omega⟩

end Account

end Polymarket.Positions
