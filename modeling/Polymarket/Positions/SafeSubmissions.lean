import Polymarket.Positions.SafeRejections

/-! Every run of a Safe batch: what is submitted, which rejections are followed by another
attempt, and what the caller gets. -/

set_option autoImplicit false

namespace Polymarket.Positions

open Orders (Bytes fromHex)
open Evm.Abi (Word mixedHash zeroWord uint256Word parseUint256Word)
open Settlement (HttpResponse)

/-! ## Attempts -/

/-- One pass of the loop: the answer to the read of a nonce, and what was submitted with its answer. -/
structure Attempt where
  nonceResponse : HttpResponse
  submission : Option (Json × HttpResponse)

def Attempt.events (attempt : Attempt) : List SafeEvent :=
  .nonceRead attempt.nonceResponse :: (attempt.submission.map fun sent => SafeEvent.submitted sent.1 sent.2).toList

section Runs

variable {account : SafeAccount} {safeCall : SafeCall} {metadata : String}

/-- How an attempt ends: without a nonce, without a signed payload, or with what was made of the answer. -/
inductive Attempt.Ends (account : SafeAccount) (safeCall : SafeCall) (metadata : String) :
    Attempt → Except SafeFailure RelayerTransaction → Prop where
  | unread {response : HttpResponse} {failure : SafeFailure}
      (read : RelayerClient.nonceOf account response = .error failure) :
      Ends account safeCall metadata ⟨response, none⟩ (.error failure)
  | unsigned {response : HttpResponse} {nonce : String} {error : CppError}
      (read : RelayerClient.nonceOf account response = .ok nonce)
      (signed : signedPayload account safeCall metadata nonce = .error error) :
      Ends account safeCall metadata ⟨response, none⟩ (.error (.thrown error))
  | answered {response answer : HttpResponse} {nonce : String} {payload : Json}
      (read : RelayerClient.nonceOf account response = .ok nonce)
      (signed : signedPayload account safeCall metadata nonce = .ok payload) :
      Ends account safeCall metadata ⟨response, some (payload, answer)⟩ (RelayerClient.transactionOf account answer)

theorem retryRateLimited_events (attempt : Nat → HttpResponse) (remaining : Nat) (state : SafeState) :
    (retryRateLimited account attempt remaining state).2.events = state.events := by
  induction remaining generalizing state with
  | zero => rfl
  | succ remaining ih =>
      unfold retryRateLimited
      dsimp only
      split
      · rfl
      · split
        · rfl
        · split
          · rfl
          · exact ih _

theorem safeNonce_reads (state : SafeState) : ∃ response next,
    RelayerClient.safeNonce account state = (RelayerClient.nonceOf account response, next) ∧
      next.events = state.events ++ [.nonceRead response] := by
  have kept := @retryRateLimited_events account account.services.params (readRetries account) state
  unfold RelayerClient.safeNonce
  exact ⟨_, _, rfl, by rw [kept]⟩

theorem submitOnce_ends (state : SafeState) : ∃ attempt : Attempt, ∃ result next,
    submitOnce account safeCall metadata state = (result, next) ∧ attempt.Ends account safeCall metadata result ∧
      next.events = state.events ++ attempt.events := by
  obtain ⟨response, next, read, recorded⟩ := @safeNonce_reads account state
  unfold submitOnce
  cases nonceRead : RelayerClient.nonceOf account response with
  | error failure =>
      rw [nonceRead] at read
      refine ⟨⟨response, none⟩, .error failure, next, ?_, .unread nonceRead, recorded⟩
      change Effect.andThen _ _ state = _
      rw [Effect.andThen, read]
  | ok nonce =>
      rw [nonceRead] at read
      rw [Effect.bind_ok read]
      cases signed : signedPayload account safeCall metadata nonce with
      | error error => exact ⟨⟨response, none⟩, _, next, rfl, .unsigned nonceRead signed, recorded⟩
      | ok payload =>
          refine ⟨⟨response, some (payload, account.services.submit next.requests payload)⟩, _, _, rfl,
            .answered nonceRead signed, ?_⟩
          rw [recorded, List.append_assoc]
          rfl

/-- The attempts of a loop: all but the last are rejected for a while, and it gives up on such a
rejection only when no retry is left. -/
structure Submitting (account : SafeAccount) (safeCall : SafeCall) (metadata : String) (retries : Nat)
    (attempts : List Attempt) (last : Attempt) (result : Except SafeFailure RelayerTransaction) : Prop where
  rejected : ∀ attempt ∈ attempts, ∃ error, attempt.Ends account safeCall metadata (.error (.refused error)) ∧
    isRetryableSubmitError error = true
  bounded : attempts.length ≤ retries
  ends : last.Ends account safeCall metadata result
  exhausted : ∀ error, result = .error (.refused error) → isRetryableSubmitError error = true → attempts.length = retries

theorem Submitting.ended {retries : Nat} {attempts : List Attempt} {last : Attempt}
    {result : Except SafeFailure RelayerTransaction}
    (submitting : Submitting account safeCall metadata retries attempts last result) {attempt : Attempt}
    (member : attempt ∈ attempts ++ [last]) : ∃ outcome, attempt.Ends account safeCall metadata outcome := by
  obtain early | final := List.mem_append.mp member
  · obtain ⟨error, ends, -⟩ := submitting.rejected attempt early
    exact ⟨_, ends⟩
  · rw [List.mem_singleton.mp final]
    exact ⟨_, submitting.ends⟩

theorem submitRetrying_submits (remaining : Nat) (state : SafeState) : ∃ attempts last result next,
    submitRetrying account safeCall metadata remaining state = (result, next) ∧
      Submitting account safeCall metadata remaining attempts last result ∧
      next.events = state.events ++ (attempts ++ [last]).flatMap Attempt.events := by
  induction remaining generalizing state with
  | zero =>
      obtain ⟨last, result, next, ran, ends, recorded⟩ :=
        @submitOnce_ends account safeCall metadata state
      refine ⟨[], last, result, next, ran, ⟨by simp, le_refl 0, ends, fun _ _ _ => rfl⟩, ?_⟩
      rw [recorded, List.nil_append, List.flatMap_singleton]
  | succ remaining ih =>
      obtain ⟨first, result, next, ran, ends, recorded⟩ :=
        @submitOnce_ends account safeCall metadata state
      have alone (final : ∀ error, result = .error (.refused error) → isRetryableSubmitError error = false)
          (same : submitRetrying account safeCall metadata (remaining + 1) state = (result, next)) :
          ∃ attempts last result next,
            submitRetrying account safeCall metadata (remaining + 1) state = (result, next) ∧
              Submitting account safeCall metadata (remaining + 1) attempts last result ∧
              next.events = state.events ++ (attempts ++ [last]).flatMap Attempt.events := by
        refine ⟨[], first, result, next, same, ⟨by simp, Nat.zero_le _, ends, ?_⟩, ?_⟩
        · intro error refused retryable
          rw [final error refused] at retryable
          cases retryable
        · rw [recorded, List.nil_append, List.flatMap_singleton]
      cases result with
      | ok submitted =>
          apply alone (by simp)
          rw [submitRetrying, ran]
      | error failure =>
          cases failure with
          | thrown error =>
              apply alone (by simp)
              rw [submitRetrying, ran]
          | refused error =>
              cases retryable : isRetryableSubmitError error with
              | false =>
                  apply alone
                  · intro other same
                    cases same
                    exact retryable
                  · rw [submitRetrying, ran]
                    simp only [retryable, Bool.false_eq_true, ↓reduceIte]
              | true =>
                  obtain ⟨attempts, last, result, after, later, submitting, more⟩ := ih next
                  refine ⟨first :: attempts, last, result, after, ?_, ?_, ?_⟩
                  · rw [submitRetrying, ran]
                    simp only [retryable, ↓reduceIte]
                    exact later
                  · constructor
                    · intro attempt listed
                      obtain rfl | inside := List.mem_cons.mp listed
                      · exact ⟨error, ends, retryable⟩
                      · exact submitting.rejected attempt inside
                    · exact Nat.succ_le_succ submitting.bounded
                    · exact submitting.ends
                    · intro other refused again
                      rw [List.length_cons, submitting.exhausted other refused again]
                  · rw [more, recorded, List.cons_append, List.flatMap_cons, List.append_assoc]

theorem ensureSafeChain_events (state : SafeState) :
    (ensureSafeChain account state).2.events = state.events ∧
      ((ensureSafeChain account state).1 = .ok () ∧
          (state.chainVerified = true ∨ account.services.chainId state.requests = .ok account.contracts.chainId) ∨
        ∃ error, (ensureSafeChain account state).1 = .error (.thrown error)) := by
  unfold ensureSafeChain
  split
  · next verified => exact ⟨rfl, .inl ⟨rfl, .inl verified⟩⟩
  · unfold verifySafeChain
    dsimp only
    split
    · next error _ => exact ⟨rfl, .inr ⟨error.val, rfl⟩⟩
    · next nodeChain answered =>
      split
      · exact ⟨rfl, .inr ⟨_, rfl⟩⟩
      · next same =>
        rw [not_not.mp same] at answered
        exact ⟨rfl, .inl ⟨rfl, .inr answered⟩⟩

/-- A batch is not begun, or its one call is submitted in attempts. -/
theorem executeFromSafe_cases (account : SafeAccount) (calls : List ContractCall) (metadata : String) (state : SafeState) :
    (∃ error next, executeFromSafe account calls metadata state = (.error (.thrown error), next) ∧
      next.events = state.events) ∨
    ∃ safeCall attempts last result next,
      resolveSafeCall account.owner.keccak256 calls account.contracts = .ok safeCall ∧
      (state.chainVerified = true ∨ account.services.chainId state.requests = .ok account.contracts.chainId) ∧
      Submitting account safeCall metadata account.relayerMaxSubmitRetries.toNat attempts last result ∧
      executeFromSafe account calls metadata state = (result.map RelayerTransaction.handle, next) ∧
      next.events = state.events ++ (attempts ++ [last]).flatMap Attempt.events := by
  obtain ⟨silent, ensured⟩ := @ensureSafeChain_events account state
  unfold executeFromSafe
  cases checked : ensureSafeChain account state with
  | mk outcome between =>
      rw [checked] at silent ensured
      obtain ⟨passed, verified⟩ | ⟨error, failed⟩ := ensured
      · cases passed
        rw [Effect.bind_ok checked]
        cases resolved : resolveSafeCall account.owner.keccak256 calls account.contracts with
        | error error => exact .inl ⟨error, between, rfl, silent⟩
        | ok safeCall =>
            obtain ⟨attempts, last, result, next, ran, submitting, recorded⟩ :=
              @submitRetrying_submits account safeCall metadata account.relayerMaxSubmitRetries.toNat between
            refine .inr ⟨safeCall, attempts, last, result, next, rfl, verified, submitting, ?_, ?_⟩
            · change Effect.andThen (submitBatch account safeCall metadata) _ between = _
              rw [Effect.andThen, submitBatch, ran]
              cases result with
              | ok submitted => rfl
              | error failure => rfl
            · rw [recorded, silent]
      · cases failed
        refine .inl ⟨error, between, ?_, silent⟩
        change Effect.andThen _ _ state = _
        rw [Effect.andThen, checked]

end Runs

/-! ## What is authorised -/

theorem Requested.typed {safeCall : SafeCall} {nonce : String} {transaction : SafeTransaction}
    (requested : Requested safeCall nonce transaction) (plain : safeCall.operation = 0 ∨ safeCall.operation = 1) :
    transaction.Typed := by
  obtain ⟨value, address, -, number, -⟩ := action_some requested.action
  constructor
  · rw [requested.operation]
    obtain zero | one := plain
    · rw [zero]
      decide
    · rw [one]
      decide
  · exact address.2
  · rw [← number]
    exact value.toNat_lt
  · obtain ⟨word, -, number⟩ := Option.map_eq_some_iff.mp requested.nonce
    rw [← number]
    exact word.toNat_lt

/-- A signed payload asks for the transaction whose hash is signed. -/
theorem signedPayload_ok {account : SafeAccount} {safeCall : SafeCall} {metadata nonce : String} {payload : Json}
    (plain : safeCall.operation = 0 ∨ safeCall.operation = 1)
    (signed : signedPayload account safeCall metadata nonce = .ok payload) :
    ∃ safe transaction signature, IsAddress account.wallet safe ∧ Requested safeCall nonce transaction ∧
      SafeTransaction.read payload = some transaction ∧ readText "proxyWallet" payload = some account.wallet ∧
      readText "signature" payload = some signature ∧
      SignedBy account.owner (transaction.digest account.owner.keccak256 account.contracts.chainId.toNat safe) signature ∧
      readText "nonce" payload = some nonce := by
  obtain ⟨digest, digestMade, signed⟩ := bind_ok signed
  obtain ⟨signature, signatureMade, built⟩ := bind_ok signed
  obtain ⟨safe, transaction, known, requested, rfl⟩ := safeTransactionDigest_ok plain digestMade
  obtain ⟨readBack, wallet, -, signatureRead, nonceRead, -⟩ := buildSafePayload_ok plain requested built
  exact ⟨safe, transaction, signature, known, requested, readBack, wallet, signatureRead, signSafeDigest_ok signatureMade,
    nonceRead⟩

section Example

/-- Contracts that take what they are sent up to a value of 100, and keep who asked for what. -/
def journal (sender : Bytes) (action : Action) (world : List (Bytes × Action)) : Option (List (Bytes × Action)) :=
  if action.value ≤ 100 then some (world ++ [(sender, action)]) else none

end Example

/-! ## How a batch is retried -/

/-- What an attempt submits asks for a transaction with the nonce that was read in it, and the owner
has signed the hash of that transaction. -/
def Attempt.Fresh (account : SafeAccount) (attempt : Attempt) : Prop :=
  ∀ payload answer, attempt.submission = some (payload, answer) →
    ∃ nonce safe transaction signature,
      RelayerClient.nonceOf account attempt.nonceResponse = .ok nonce ∧ readText "nonce" payload = some nonce ∧
      readText "proxyWallet" payload = some account.wallet ∧ IsAddress account.wallet safe ∧
      SafeTransaction.read payload = some transaction ∧ readNumber nonce = some transaction.nonce ∧
      readText "signature" payload = some signature ∧
      SignedBy account.owner (transaction.digest account.owner.keccak256 account.contracts.chainId.toNat safe) signature

/-- The relayer has taken what an attempt submitted. -/
def Attempt.Accepted (account : SafeAccount) (attempt : Attempt) (submitted : RelayerTransaction) : Prop :=
  ∃ payload answer, attempt.submission = some (payload, answer) ∧ RelayerClient.transactionOf account answer = .ok submitted

theorem Attempt.Ends.fresh {account : SafeAccount} {safeCall : SafeCall} {metadata : String} {attempt : Attempt}
    {outcome : Except SafeFailure RelayerTransaction} (plain : safeCall.operation = 0 ∨ safeCall.operation = 1)
    (ends : attempt.Ends account safeCall metadata outcome) : attempt.Fresh account := by
  intro payload answer sent
  cases ends with
  | unread read => cases sent
  | unsigned read signed => cases sent
  | @answered response _ nonce _ read signed =>
      cases sent
      obtain ⟨safe, transaction, signature, known, requested, readBack, wallet, signatureRead, own, nonceRead⟩ :=
        signedPayload_ok plain signed
      exact ⟨nonce, safe, transaction, signature, read, nonceRead, wallet, known, readBack, requested.nonce,
        signatureRead, own⟩

theorem Attempt.Ends.accepted_iff {account : SafeAccount} {safeCall : SafeCall} {metadata : String} {attempt : Attempt}
    {outcome : Except SafeFailure RelayerTransaction} (ends : attempt.Ends account safeCall metadata outcome)
    (submitted : RelayerTransaction) : attempt.Accepted account submitted ↔ outcome = .ok submitted := by
  cases ends with
  | unread read =>
      constructor
      · rintro ⟨payload, answer, sent, -⟩
        cases sent
      · intro impossible
        cases impossible
  | unsigned read signed =>
      constructor
      · rintro ⟨payload, answer, sent, -⟩
        cases sent
      · intro impossible
        cases impossible
  | answered read signed =>
      constructor
      · rintro ⟨payload, answer, sent, accepted⟩
        cases sent
        exact accepted
      · exact fun accepted => ⟨_, _, rfl, accepted⟩

/-- A response that is no success is the refusal. -/
def Refuses (response : HttpResponse) (error : RelayerRequestError) : Prop :=
  (response.statusCode < 200 ∨ 300 ≤ response.statusCode) ∧ error.status = response.statusCode ∧
    error.body = if response.body.isEmpty then response.error else response.body

/-- The relayer has refused the read of the nonce of an attempt, or what it submitted. -/
def Attempt.Refused (attempt : Attempt) (error : RelayerRequestError) : Prop :=
  Refuses attempt.nonceResponse error ∨ ∃ payload answer, attempt.submission = some (payload, answer) ∧ Refuses answer error

theorem parse_refused {account : SafeAccount} {response : HttpResponse} {endpoint : String} {error : RelayerRequestError}
    (failed : RelayerClient.parse account response endpoint = .error (.refused error)) : Refuses response error := by
  unfold RelayerClient.parse at failed
  split at failed
  · next status =>
    cases failed
    exact ⟨status, rfl, rfl⟩
  · split at failed
    · split at failed
      · cases failed
      · cases failed
    · cases failed
    · cases failed

theorem mapError_thrown {α : Type} {result : Except CppError α} {error : RelayerRequestError} :
    result.mapError SafeFailure.thrown ≠ .error (.refused error) := by
  cases result with
  | ok value => simp [Except.mapError]
  | error error => simp [Except.mapError]

theorem nonceOf_refused {account : SafeAccount} {response : HttpResponse} {error : RelayerRequestError}
    (failed : RelayerClient.nonceOf account response = .error (.refused error)) : Refuses response error := by
  obtain early | ⟨body, -, failed⟩ := bind_error failed
  · exact parse_refused early
  · obtain field | ⟨nonce, -, failed⟩ := bind_error failed
    · exact absurd field mapError_thrown
    · split at failed
      · cases failed
      · cases failed

theorem transactionOf_refused {account : SafeAccount} {response : HttpResponse} {error : RelayerRequestError}
    (failed : RelayerClient.transactionOf account response = .error (.refused error)) : Refuses response error := by
  obtain early | ⟨body, -, failed⟩ := bind_error failed
  · exact parse_refused early
  · obtain field | ⟨transactionId, -, failed⟩ := bind_error failed
    · exact absurd field mapError_thrown
    · obtain field | ⟨transactionHash, -, failed⟩ := bind_error failed
      · exact absurd field mapError_thrown
      · obtain field | ⟨state, -, failed⟩ := bind_error failed
        · exact absurd field mapError_thrown
        · split at failed
          · cases failed
          · cases failed

theorem Attempt.Ends.refused {account : SafeAccount} {safeCall : SafeCall} {metadata : String} {attempt : Attempt}
    {error : RelayerRequestError} (ends : attempt.Ends account safeCall metadata (.error (.refused error))) :
    attempt.Refused error := by
  generalize outcomeIs : Except.error (SafeFailure.refused error) = outcome at ends
  cases ends with
  | unread read =>
      cases outcomeIs
      exact .inl (nonceOf_refused read)
  | unsigned read signed => cases outcomeIs
  | answered read signed => exact .inr ⟨_, _, rfl, transactionOf_refused outcomeIs.symm⟩

section Retries

variable {account : SafeAccount} {safeCall : SafeCall} {metadata : String} {retries : Nat} {attempts : List Attempt}
  {last : Attempt} {result : Except SafeFailure RelayerTransaction}

/-- All attempts but the last were refused for a while. -/
theorem Submitting.refusedBefore (submitting : Submitting account safeCall metadata retries attempts last result)
    {attempt : Attempt} (member : attempt ∈ (attempts ++ [last]).dropLast) :
    (∀ submitted, ¬attempt.Accepted account submitted) ∧ ∃ error, attempt.Refused error ∧ Transient error := by
  rw [List.dropLast_concat] at member
  obtain ⟨error, ended, retryable⟩ := submitting.rejected attempt member
  constructor
  · intro submitted accepted
    cases (ended.accepted_iff submitted).mp accepted
  · exact ⟨error, ended.refused, isRetryableSubmitError_iff.mp retryable⟩

/-- The caller gets the handle of what the last attempt had accepted. -/
theorem Submitting.handle_iff (submitting : Submitting account safeCall metadata retries attempts last result)
    (handle : SafeHandle) : result.map RelayerTransaction.handle = .ok handle ↔
      ∃ final submitted, (attempts ++ [last]).getLast? = some final ∧ final.Accepted account submitted ∧
        handle = submitted.handle := by
  have whole (submitted : RelayerTransaction) := submitting.ends.accepted_iff submitted
  constructor
  · intro returned
    cases result with
    | error failure => cases returned
    | ok submitted =>
        cases returned
        exact ⟨last, submitted, List.getLast?_concat .., (whole submitted).mpr rfl, rfl⟩
  · rintro ⟨final, submitted, ended, accepted, rfl⟩
    rw [List.getLast?_concat] at ended
    cases ended
    rw [(whole submitted).mp accepted]
    rfl

/-- A refusal that is reported is the last one, and no retry is left if it is transient. -/
theorem Submitting.refusal (submitting : Submitting account safeCall metadata retries attempts last result)
    {error : RelayerRequestError} (refused : result.map RelayerTransaction.handle = .error (.refused error)) :
    (∃ final, (attempts ++ [last]).getLast? = some final ∧ final.Refused error) ∧
      (Transient error → (attempts ++ [last]).length = retries + 1) := by
  cases result with
  | ok submitted => cases refused
  | error failure =>
      cases refused
      constructor
      · exact ⟨last, List.getLast?_concat .., submitting.ends.refused⟩
      · intro transient
        rw [List.length_append, submitting.exhausted error rfl (isRetryableSubmitError_iff.mpr transient)]
        rfl

end Retries

/-- A batch is submitted in at most one more attempt than there are retries, each signed anew for the
nonce read in it. Only the last attempt may have been accepted, and then the caller gets its
handle; all others were refused for a while. A refusal that is reported is the last one; the loop
gives up on a transient one when no retry is left, and nothing is asked of the relayer before the
node is known to be on the chain of the contracts. -/
theorem safeSubmissions_retried (account : SafeAccount) (calls : List ContractCall) (metadata : String) (state : SafeState) :
    ∃ attempts : List Attempt,
      (executeFromSafe account calls metadata state).2.events = state.events ++ attempts.flatMap Attempt.events ∧
      attempts.length ≤ account.relayerMaxSubmitRetries.toNat + 1 ∧
      (attempts ≠ [] →
        state.chainVerified = true ∨ account.services.chainId state.requests = .ok account.contracts.chainId) ∧
      (∀ attempt ∈ attempts, attempt.Fresh account) ∧
      (∀ attempt ∈ attempts.dropLast, (∀ submitted, ¬attempt.Accepted account submitted) ∧
        ∃ error, attempt.Refused error ∧ Transient error) ∧
      (∀ handle, (executeFromSafe account calls metadata state).1 = .ok handle ↔
        ∃ last submitted, attempts.getLast? = some last ∧ last.Accepted account submitted ∧ handle = submitted.handle) ∧
      ∀ error, (executeFromSafe account calls metadata state).1 = .error (.refused error) →
        (∃ last, attempts.getLast? = some last ∧ last.Refused error) ∧
          (Transient error → attempts.length = account.relayerMaxSubmitRetries.toNat + 1) := by
  obtain ⟨error, next, ran, silent⟩ | ⟨safeCall, attempts, last, result, next, resolved, verified, submitting, ran, recorded⟩ :=
    executeFromSafe_cases account calls metadata state
  · refine ⟨[], by rw [ran, silent]; exact (List.append_nil _).symm, Nat.zero_le _, by simp, by simp, by simp, ?_, ?_⟩
    · intro handle
      rw [ran]
      simp
    · intro other refused
      rw [ran] at refused
      cases refused
  · refine ⟨attempts ++ [last], by rw [ran, recorded], ?_, fun _ => verified, ?_, ?_, ?_, ?_⟩
    · rw [List.length_append]
      exact Nat.succ_le_succ submitting.bounded
    · intro attempt member
      obtain ⟨outcome, ended⟩ := submitting.ended member
      exact ended.fresh (resolveSafeCall_plain resolved)
    · intro attempt member
      exact submitting.refusedBefore member
    · intro handle
      rw [ran]
      exact submitting.handle_iff handle
    · intro error refused
      rw [ran] at refused
      exact submitting.refusal refused

end Polymarket.Positions
