import Polymarket.Positions.EoaBatch
import Polymarket.Positions.SafeAuthorisation
import Polymarket.Settlement.Lookup

/-! Safe transactions sent through the relayer: its answers, which rejections are tried
again, and the loop that submits a batch. -/

set_option autoImplicit false

namespace Polymarket.Positions

open Orders (Bytes)
open Settlement (HttpResponse holdsText)

/-! ## Rejections -/

/-- A relayer response that is not a success. -/
structure RelayerRequestError where
  endpoint : String
  status : Int
  body : String
deriving DecidableEq, Repr

def RelayerRequestError.what (error : RelayerRequestError) : String :=
  "relayer " ++ error.endpoint ++ " failed with status " ++ toString error.status ++ ": " ++
    String.ofList (error.body.toList.take 500)

/-- `a < b` for base-10 digit strings. -/
def decimalLess (a b : List Char) : Bool :=
  let a := a.dropWhile (· == '0')
  let b := b.dropWhile (· == '0')
  if a.length ≠ b.length then decide (a.length < b.length) else decide (a < b)

/-- What a dot of a pattern does not match. -/
def endsLine (character : Char) : Bool := character == '\n' || character == '\r'

/-- `wallet busy.*active action`, in a body in lower case. -/
def matchesBusy (body : List Char) : Bool :=
  body.tails.any fun tail =>
    "wallet busy".toList.isPrefixOf tail &&
      holdsText ((tail.drop "wallet busy".length).takeWhile fun character => !endsLine character)
        "active action".toList

def readPart (part text : List Char) : Option (List Char) :=
  if part.isPrefixOf text then some (text.drop part.length) else none

/-- `\s+`. -/
def readBlanks (text : List Char) : Option (List Char) :=
  if (text.takeWhile isSpace).isEmpty then none else some (text.dropWhile isSpace)

/-- `(\d+)`. -/
def readDigits (text : List Char) : Option (List Char × List Char) :=
  if (text.takeWhile Char.isDigit).isEmpty then none
  else some (text.takeWhile Char.isDigit, text.dropWhile Char.isDigit)

/-- `batch nonce\s+(\d+)\s+does not match on-chain nonce\s+(\d+)`, at the start of a text in lower case. -/
def readNonceMismatch (text : List Char) : Option (List Char × List Char) := do
  let behindName ← readPart "batch nonce".toList text
  let atBatch ← readBlanks behindName
  let (batch, behindBatch) ← readDigits atBatch
  let atVerb ← readBlanks behindBatch
  let behindVerb ← readPart "does not match on-chain nonce".toList atVerb
  let atChain ← readBlanks behindVerb
  let (chain, _) ← readDigits atChain
  some (batch, chain)

def isRetryableSubmitError (error : RelayerRequestError) : Bool :=
  if error.status = 429 then true
  else if error.status ≠ 400 then false
  else
    let body := error.body.toList.map Char.toLower
    if matchesBusy body || holdsText body "wallet has in-flight action".toList then true
    else
      match body.tails.findSome? readNonceMismatch with
      | some (batch, chain) => decimalLess batch chain
      | none => false

/-! ## The relayer -/

/-- What ends a request: an exception that says the relayer refused it, or another one. -/
inductive SafeFailure where
  | refused (error : RelayerRequestError)
  | thrown (error : CppError)
deriving DecidableEq

structure RelayerTransaction where
  transactionId : String
  transactionHash : String := ""
  state : String
  errorMessage : String := ""
deriving DecidableEq, Repr

structure RateLimitRetry where
  retries : Nat := 2
  /-- In milliseconds. -/
  maxDelay : Int := 5000
deriving DecidableEq, Repr

/-- The answers of the node and of the relayer, by the number of requests made before. -/
structure SafeServices where
  chainId : Nat → Except StandardError UInt64
  params : Nat → HttpResponse
  submit : Nat → Json → HttpResponse
  /-- `rate_limit_delay`, in milliseconds. -/
  rateLimitDelay : Nat → HttpResponse → Int

structure SafeAccount where
  owner : SafeOwner
  contracts : DeployedContracts
  wallet : String
  derived : deriveSafeAddress owner.keccak256 owner.address contracts = .ok wallet
  readRetry : Option RateLimitRetry
  relayerMaxSubmitRetries : Int
  parseJson : String → Except CppError Json
  services : SafeServices

/-- What a relayer was asked and answered. -/
inductive SafeEvent where
  | nonceRead (response : HttpResponse)
  | submitted (payload : Json) (response : HttpResponse)

structure SafeState where
  chainVerified : Bool := false
  requests : Nat := 0
  /-- Not in the code: the last answer of each read of a nonce and all submissions, in order. -/
  events : List SafeEvent := []

abbrev Safe := Effect SafeFailure SafeState

/-- The part of the code that only computes. -/
def computed {α : Type} (result : Except CppError α) : Safe α := Effect.lift (result.mapError .thrown)

def stringField (body : Json) (key endpoint : String) (required : Bool) : Except CppError String :=
  match body.find? key with
  | some (.string text) => .ok text
  | some .null | none =>
      if required then
        .error (.runtimeError ("invalid relayer response from " ++ endpoint ++ ": " ++ key ++ " is missing or not a string"))
      else .ok ""
  | some _ =>
      .error (.runtimeError ("invalid relayer response from " ++ endpoint ++ ": " ++ key ++ " is missing or not a string"))

def isDigits (text : String) : Bool := !text.toList.isEmpty && text.toList.all Char.isDigit

section Relayer

variable (account : SafeAccount)

/-- The attempts of `retry_rate_limited`. -/
def retryRateLimited (attempt : Nat → HttpResponse) : Nat → SafeState → HttpResponse × SafeState
  | 0, state => (attempt state.requests, { state with requests := state.requests + 1 })
  | remaining + 1, state =>
      let response := attempt state.requests
      let next := { state with requests := state.requests + 1 }
      match account.readRetry with
      | none => (response, next)
      | some policy =>
          if response.statusCode ≠ 429 then (response, next)
          else if policy.maxDelay < account.services.rateLimitDelay next.requests response then (response, next)
          else retryRateLimited attempt remaining next

def readRetries : Nat := (account.readRetry.map RateLimitRetry.retries).getD 0

def RelayerClient.parse (response : HttpResponse) (endpoint : String) : Except SafeFailure Json :=
  if response.statusCode < 200 ∨ 300 ≤ response.statusCode then
    .error (.refused ⟨endpoint, response.statusCode, if response.body.isEmpty then response.error else response.body⟩)
  else
    match account.parseJson response.body with
    | .ok body =>
        if body.isObject then .ok body
        else .error (.thrown (.runtimeError ("invalid relayer response from " ++ endpoint ++ ": not an object")))
    | .error .jsonParseError =>
        .error (.thrown (.runtimeError ("invalid relayer response from " ++ endpoint ++ ": not JSON")))
    | .error error => .error (.thrown error)

def paramsEndpoint : String := "/v1/account/transactions/params"

/-- What `safe_nonce` makes of the response. -/
def RelayerClient.nonceOf (response : HttpResponse) : Except SafeFailure String := do
  let body ← RelayerClient.parse account response paramsEndpoint
  let nonce ← (stringField body "nonce" paramsEndpoint true).mapError .thrown
  if isDigits nonce then .ok nonce
  else .error (.thrown (.runtimeError ("invalid relayer response from " ++ paramsEndpoint ++ ": nonce is not numeric")))

def RelayerClient.safeNonce : Safe String := fun state =>
  let (response, next) := retryRateLimited account account.services.params (readRetries account) state
  (RelayerClient.nonceOf account response, { next with events := next.events ++ [.nonceRead response] })

/-- What `submit` makes of the response. -/
def RelayerClient.transactionOf (response : HttpResponse) : Except SafeFailure RelayerTransaction := do
  let body ← RelayerClient.parse account response "/submit"
  let transactionId ← (stringField body "transactionID" "/submit" true).mapError .thrown
  let transactionHash ← (stringField body "transactionHash" "/submit" false).mapError .thrown
  let state ← (stringField body "state" "/submit" true).mapError .thrown
  if transactionId.isEmpty then
    .error (.thrown (.runtimeError "invalid relayer response from /submit: empty transactionID"))
  else .ok { transactionId, transactionHash, state }

def RelayerClient.submit (payload : Json) : Safe RelayerTransaction := fun state =>
  let response := account.services.submit state.requests payload
  (RelayerClient.transactionOf account response,
    { state with requests := state.requests + 1, events := state.events ++ [.submitted payload response] })

/-! ## Submitting a batch -/

def verifySafeChain : Safe Unit := fun state =>
  let next := { state with requests := state.requests + 1 }
  match account.services.chainId state.requests with
  | .error error => (.error (.thrown error.val), next)
  | .ok nodeChain =>
      if nodeChain ≠ account.contracts.chainId then
        (.error (.thrown (.runtimeError ("RPC node is on chain " ++ toString nodeChain.toNat ++ ", expected " ++
          toString account.contracts.chainId.toNat))), next)
      else (.ok (), { next with chainVerified := true })

def ensureSafeChain : Safe Unit := fun state =>
  if state.chainVerified then (.ok (), state) else verifySafeChain account state

/-- A signed payload for a nonce. -/
def signedPayload (safeCall : SafeCall) (metadata nonce : String) : Except CppError Json := do
  let digest ← safeTransactionDigest account.owner.keccak256 account.wallet account.contracts.chainId safeCall nonce
  let signature ← signSafeDigest account.owner digest
  buildSafePayload account.owner.address account.wallet safeCall nonce signature metadata

/-- One pass of the loop, up to its handler. -/
def submitOnce (safeCall : SafeCall) (metadata : String) : Safe RelayerTransaction := do
  let nonce ← RelayerClient.safeNonce account
  let payload ← computed (signedPayload account safeCall metadata nonce)
  RelayerClient.submit account payload

/-- The loop, with the retries that are left. -/
def submitRetrying (safeCall : SafeCall) (metadata : String) :
    Nat → SafeState → Except SafeFailure RelayerTransaction × SafeState
  | 0, state => submitOnce account safeCall metadata state
  | remaining + 1, state =>
      match submitOnce account safeCall metadata state with
      | (.error (.refused error), next) =>
          if isRetryableSubmitError error then submitRetrying safeCall metadata remaining next
          else (.error (.refused error), next)
      | other => other

def submitBatch (safeCall : SafeCall) (metadata : String) : Safe RelayerTransaction :=
  submitRetrying account safeCall metadata account.relayerMaxSubmitRetries.toNat

structure SafeHandle where
  transactionHashes : List String
  transactionId : String
deriving DecidableEq, Repr

/-- A handle with an id, and with a hash when the relayer has one. -/
def RelayerTransaction.handle (submitted : RelayerTransaction) : SafeHandle where
  transactionHashes := if submitted.transactionHash.isEmpty then [] else [submitted.transactionHash]
  transactionId := submitted.transactionId

def executeFromSafe (calls : List ContractCall) (metadata : String) : Safe SafeHandle := do
  ensureSafeChain account
  let safeCall ← computed (resolveSafeCall account.owner.keccak256 calls account.contracts)
  let submitted ← submitBatch account safeCall metadata
  pure submitted.handle

end Relayer

end Polymarket.Positions
