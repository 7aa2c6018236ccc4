import Polymarket.Pagination.Paginator
import Polymarket.Settlement.Tracker

/-! Lookups of a trade over REST, and the results made of settled trades. The JSON of the
responses is read by functions of the environment. -/

set_option autoImplicit false

namespace Polymarket.Settlement

open Pagination (SdkErrorCode)

/-! ## Errors -/

/-- The error of a request, without the excerpt of its body and the rate limits. -/
structure RestError extends Pagination.SdkError where
  httpStatus : Int := 0
  requestId : String := ""
  retryable : Bool := false
deriving DecidableEq, Repr

structure HttpResponse where
  statusCode : Int := 0
  body : String := ""
  error : String := ""
  headers : List (String × String) := []
deriving DecidableEq, Repr

def HttpResponse.ok (response : HttpResponse) : Bool :=
  response.error.isEmpty && decide (200 ≤ response.statusCode) && decide (response.statusCode < 300)

/-- How the bodies of responses are read. -/
structure Parsers where
  tradePage : String → Except String (List Trade)
  apiErrorMessage : String → String

def headerValue (response : HttpResponse) (key : String) : String := (response.headers.lookup key).getD ""

/-- Whether the text holds the other one. -/
def holdsText (text part : List Char) : Bool := text.tails.any fun tail => part.isPrefixOf tail

def isDepositWalletSignerMismatch (endpoint : String) (statusCode : Int) (message : String) : Bool :=
  let normalized := message.toList.map Char.toLower
  endpoint == "/order" && statusCode == 400 && holdsText normalized "order signer address".toList &&
    holdsText normalized "address of the api key".toList

def depositWalletSetupMessage : String :=
  "POLY_1271 deposit wallet order was rejected because the order signer does not match the CLOB API key address. " ++
  "Check that the funder is the deployed deposit wallet/proxy address, the wallet contract has bytecode on Polygon, " ++
  "approvals and pUSD balance are set on that wallet, and update_balance_allowance was called with signature_type=3 " ++
  "before posting."

def makeSdkError (parsers : Parsers) (response : HttpResponse) (endpoint : String) : RestError :=
  let known := headerValue response "x-request-id"
  let requestId := if known.isEmpty then headerValue response "cf-ray" else known
  let fail (code : SdkErrorCode) (message : String) (retryable : Bool) : RestError :=
    { code, message, endpoint, httpStatus := response.statusCode, requestId, retryable }
  if !response.error.isEmpty then fail .httpTransport response.error true
  else
    let apiMessage := parsers.apiErrorMessage response.body
    let message := if apiMessage.isEmpty then "API request failed" else apiMessage
    if isDepositWalletSignerMismatch endpoint response.statusCode message then
      fail .depositWalletSetup depositWalletSetupMessage false
    else if response.statusCode = 401 ∨ response.statusCode = 403 then fail .auth message false
    else if response.statusCode = 429 then fail .rateLimit message true
    else if 500 ≤ response.statusCode then fail .apiResponse message true
    else fail .apiResponse message false

def makeAuthError (message endpoint : String) : RestError := { code := .auth, message, endpoint }

def makeParseError (message endpoint : String) : RestError := { code := .parse, message, endpoint }

/-! ## Lookups -/

def tradesEndpoint : String := "/data/trades"

def settlementError (code : SdkErrorCode) (message : String) (retryable : Bool) : RestError :=
  { code, message, endpoint := tradesEndpoint, retryable }

/-- What a lookup finds: whether there are a signer and credentials, and the response. -/
structure LookupAnswer where
  authenticated : Bool := true
  response : HttpResponse
deriving DecidableEq, Repr

def lookupTrade (parsers : Parsers) (answer : LookupAnswer) (tradeId : String) : Except RestError (Option Trade) :=
  if !answer.authenticated then .error (makeAuthError "Client not authenticated" tradesEndpoint)
  else if tradeId.isEmpty then .error (settlementError .invalidArgument "trade_id is required" false)
  else if !answer.response.ok then .error (makeSdkError parsers answer.response tradesEndpoint)
  else
    match parsers.tradePage answer.response.body with
    | .ok trades => .ok (trades.find? (·.id == tradeId))
    | .error what => .error (makeParseError what tradesEndpoint)

/-- No lookup fails as a failed transaction does. -/
theorem lookupTrade_code {parsers : Parsers} {answer : LookupAnswer} {tradeId : String} {error : RestError}
    (failed : lookupTrade parsers answer tradeId = .error error) : error.code ≠ .transactionFailed := by
  rw [lookupTrade] at failed
  split at failed
  · cases failed
    exact SdkErrorCode.noConfusion
  split at failed
  · cases failed
    exact SdkErrorCode.noConfusion
  split at failed
  · cases failed
    simp only [makeSdkError]
    split_ifs <;> exact SdkErrorCode.noConfusion
  split at failed
  · cases failed
  · cases failed
    exact SdkErrorCode.noConfusion

/-! ## Orders and their settlement -/

structure OrderResponse where
  orderId : String
  transactionHashes : List String := []
  tradeIds : List String

structure OrderSettlement where
  transactionHashes : List String := []
  trades : List Trade := []
deriving DecidableEq, Repr

abbrev Settled := Except RestError OrderSettlement

def hasSettlementDetails (trade : Trade) : Bool :=
  let status := normalizedTradeStatus trade.status
  status == "FAILED".toList || (status == "CONFIRMED".toList && !trade.transactionHash.isEmpty)

def isFailed (trade : Trade) : Bool := isFailedTradeStatus trade.status

def appendUnique (values : List String) (value : String) : List String :=
  if !value.isEmpty && !values.contains value then values ++ [value] else values

def join (values : List String) : String :=
  values.foldl (fun result value => result ++ (if result.isEmpty then "" else ", ") ++ value) ""

def uniqueTradeIds (order : OrderResponse) : List String := order.tradeIds.foldl appendUnique []

def unfilledSettlement (order : OrderResponse) : OrderSettlement :=
  { transactionHashes := order.transactionHashes.foldl appendUnique [] }

/-- The place of one trade: its id, the trade once it is settled, and whether its hash was
looked up. -/
structure Slot where
  tradeId : String
  settled : Option Trade := none
  hashLookupRequested : Bool := false
deriving DecidableEq, Repr

def pendingIds (slots : List Slot) : List String := (slots.filter (·.settled.isNone)).map (·.tradeId)

def finishSettlement (order : OrderResponse) (slots : List Slot) : Settled :=
  let trades := slots.filterMap (·.settled)
  let hashes := trades.foldl
    (fun hashes trade => if isFailed trade then hashes else appendUnique hashes trade.transactionHash) []
  if trades.all isFailed then
    .error (settlementError .transactionFailed
      ("every fill of order " ++ order.orderId ++ " failed execution: " ++ join (slots.map (·.tradeId))) false)
  else .ok { transactionHashes := hashes, trades }

end Polymarket.Settlement
