import Polymarket.Evm.UintArray
import Polymarket.Pagination.Paginator
import Polymarket.Positions.ConditionIds

/-! Merging several positions in one batch: the lookup of each market, the checks that
the requests name distinct conditions, and the calls. -/

set_option autoImplicit false

namespace Polymarket.Positions

open Orders (Bytes fromHex)
open Evm (Checked)
open Evm.Abi (Word EvmAbiValue parseUint256Word)

/-! ## Gamma -/

def unexpectedMarket {α : Type} (conditionId reason : String) : Except CppError α :=
  .error (.runtimeError ("unexpected Gamma market for condition " ++ conditionId ++ ": " ++ reason))

/-- Gamma returns some id lists as JSON arrays and others as JSON-encoded strings. -/
def stringSequence (parseJson : String → Option Json) (market : Json) (key conditionId : String) :
    Except CppError (List String) := do
  let value := (market.find? key).getD .null
  let list ← match value with
    | .null => .ok (.array [])
    | .string text =>
        match parseJson text with
        | some parsed => .ok parsed
        | none => unexpectedMarket conditionId (key ++ " is not a JSON list")
    | other => .ok other
  match list with
  | .array items =>
      items.mapM fun item =>
        match item with
        | .string id => .ok id
        | _ => unexpectedMarket conditionId (key ++ " must contain strings")
  | _ => unexpectedMarket conditionId (key ++ " is not a list")

def checkId (id key conditionId : String) : Except CppError Unit :=
  match parseUint256Word id with
  | .ok _ => .ok ()
  | .error (.invalidArgument _) => unexpectedMarket conditionId (key ++ " holds a non-integer id")
  | .error error => .error error

def binaryIds (ids : List String) (key conditionId : String) : Except CppError (String × String) :=
  match ids with
  | [yes, no] => do
      checkId yes key conditionId
      checkId no key conditionId
      .ok (yes, no)
  | _ => unexpectedMarket conditionId (key ++ " must hold exactly two ids")

/-- Gamma may list a V2 condition as bytes31 or as bytes32 with an outcome byte; either
form matches a request in the other. -/
def matchesRequest (gammaId wanted : String) : Bool :=
  gammaId == wanted ||
    (gammaId.toList.length != wanted.toList.length &&
      match v2ConditionIdBytes31 gammaId, v2ConditionIdBytes31 wanted with
      | .ok listed, .ok requested => listed == requested
      | _, _ => false)

/-- The text of an id that is a string or an integer. -/
def marketIdOf (market : Json) : String :=
  match market.find? "id" with
  | some (.string id) => id
  | some (.integer id) => toString id
  | some (.unsigned id) => toString id.toInt64.toInt
  | _ => ""

def v2Context (parseJson : String → Option Json) (market : Json) (contracts : PolymarketContracts)
    (wanted gammaId : String) : Except CppError MarketPositionContext := do
  let ids ← stringSequence parseJson market "positionIds" wanted
  let tokenIds ← binaryIds ids "positionIds" wanted
  let _ ← v2ConditionIdBytes31 wanted
  .ok {
    protocol := .v2, marketId := marketIdOf market, conditionId := gammaId, tokenIds := tokenIds,
    positionTokenContract := contracts.positionManager, operatorContract := contracts.protocolV2Router }

def ctfContext (parseJson : String → Option Json) (market : Json) (contracts : PolymarketContracts)
    (wanted gammaId : String) : Except CppError MarketPositionContext :=
  if wanted.toList.length = 64 then
    .error (.invalidArgument ("condition " ++ wanted ++ " is a v1 market, which needs a 32-byte condition_id"))
  else if gammaId.toList.length ≠ 66 then
    unexpectedMarket wanted "v1 market has a conditionId that is not 32 bytes"
  else do
    let ids ← stringSequence parseJson market "clobTokenIds" wanted
    let tokenIds ← binaryIds ids "clobTokenIds" wanted
    match market.find? "negRisk" with
    | some (.bool negRisk) =>
        .ok {
          protocol := .ctf, marketId := marketIdOf market, conditionId := gammaId, negRisk := negRisk,
          tokenIds := tokenIds,
          positionTokenContract := if negRisk then contracts.negRiskAdapter else contracts.conditionalTokens,
          operatorContract := contracts.ctfCollateralAdapter negRisk }
    | _ => unexpectedMarket wanted "missing negRisk flag"

def marketContextFromGamma (parseJson : String → Option Json) (markets : Json) (conditionId : String)
    (contracts : PolymarketContracts) : Except CppError MarketPositionContext := do
  let wanted ← normalizeRequestedConditionId conditionId
  match markets with
  | .array [] => .error (.invalidArgument ("no market found for condition " ++ wanted))
  | .array [market] =>
      if market.isObject = false then unexpectedMarket wanted "entry is not an object"
      else
        match market.find? "conditionId" with
        | some (.string listed) =>
            let gammaId := evmNormalizeHex listed
            if matchesRequest gammaId wanted = false then
              unexpectedMarket wanted "conditionId does not match the request"
            else
              match market.find? "version" with
              | some (.string "v2") => v2Context parseJson market contracts wanted gammaId
              | some (.string "v1") => ctfContext parseJson market contracts wanted gammaId
              | some (.string version) => unexpectedMarket wanted ("unknown market version " ++ version)
              | _ => unexpectedMarket wanted "missing market version"
        | _ => unexpectedMarket wanted "missing conditionId"
  | .array several => unexpectedMarket wanted ("expected one market, got " ++ toString several.length)
  | _ => unexpectedMarket wanted "response is not a list"

/-! ## Batches -/

structure MergePositionRequest where
  conditionId : String
  amount : String := "max"
deriving DecidableEq, Repr

/-- What the lookup reads of a failed collection. -/
structure LookupError where
  code : Pagination.SdkErrorCode
  httpStatus : Int
  message : String
deriving DecidableEq, Repr

/-- The answers to one request: the raw markets of Gamma, and the balances of the node. -/
structure MarketAnswers where
  markets : Except LookupError (List Json)
  balances : Except CppError String

/-- What a client is made with; the functions stand for other libraries. -/
structure PositionEnvironment where
  contracts : PolymarketContracts
  walletAddress : String
  keccak256 : String → Word
  parseJson : String → Option Json

section Client

variable (environment : PositionEnvironment)

def resolveMarket (conditionId : String) (answers : MarketAnswers) (closedOnly : Bool) :
    Except CppError MarketPositionContext := do
  let normalized ← normalizeRequestedConditionId conditionId
  match answers.markets with
  | .error error =>
      if error.code = .parse then
        .error (.runtimeError
          ("Gamma market lookup returned invalid JSON for condition " ++ normalized ++ ": " ++ error.message))
      else
        .error (.runtimeError
          ("Gamma market lookup failed for condition " ++ normalized ++ ": status " ++ toString error.httpStatus ++ " " ++
            error.message))
  | .ok [] =>
      .error (.invalidArgument
        ("no " ++ (if closedOnly then "closed" else "open") ++ " market found for condition " ++ normalized ++
          (if closedOnly then "" else " (closed markets can only be redeemed)")))
  | .ok markets => marketContextFromGamma environment.parseJson (.array markets) normalized environment.contracts

def positionBalances (market : MarketPositionContext) (answers : MarketAnswers) : Checked (String × String) := do
  let _ ← Checked.outcome (balanceOfBatchCall environment.keccak256 market environment.walletAddress)
  let returnData ← Checked.outcome answers.balances
  decodeBinaryBalances returnData

/-- The first loop: the requested texts are distinct. -/
def checkDistinct : List MergePositionRequest → List String → Except CppError Unit
  | [], _ => .ok ()
  | request :: rest, seen => do
      let normalized ← normalizeRequestedConditionId request.conditionId
      if normalized ∈ seen then .error (.invalidArgument "merge requests must reference distinct conditions")
      else checkDistinct rest (normalized :: seen)

/-- The second loop: the calls. -/
def mergeCalls : List (MergePositionRequest × MarketAnswers) → List String → Checked (List ContractCall)
  | [], _ => pure []
  | (request, answers) :: rest, resolvedConditions => do
      let market ← Checked.outcome (resolveMarket environment request.conditionId answers false)
      if market.conditionId ∈ resolvedConditions then
        Checked.throws "merge requests must reference distinct conditions"
      else do
        let balances ← positionBalances environment market answers
        let resolved ← Checked.outcome (resolveMergeAmount market.conditionId balances request.amount)
        let call ← Checked.outcome (mergeCall environment.keccak256 market environment.contracts resolved)
        let calls ← mergeCalls rest (market.conditionId :: resolvedConditions)
        pure (call :: calls)

/-- The calls that are given to `execute_calls`. -/
def mergeMultiplePositions (requests : List (MergePositionRequest × MarketAnswers)) : Checked (List ContractCall) :=
  if requests.isEmpty then Checked.throws "merge_multiple_positions needs at least one request"
  else do
    Checked.outcome (checkDistinct (requests.map Prod.fst) [])
    mergeCalls environment requests []

end Client

/-! ## What a batch that reaches the sender has passed -/

theorem bind_reached {α β : Type} {source : Checked α} {rest : α → Checked β} {result : β}
    (reached : source >>= rest = pure result) : ∃ value, source = pure value ∧ rest value = pure result := by
  change Option (Except CppError α) at source
  cases source with
  | none => cases reached
  | some outcome =>
      cases outcome with
      | ok value => exact ⟨value, rfl, reached⟩
      | error error => cases reached

theorem outcome_reached {α : Type} {result : Except CppError α} {value : α}
    (reached : Checked.outcome result = pure value) : result = .ok value := Option.some.inj reached

/-- How the single market of an answer is listed: its version and its condition. -/
structure Listed (answers : MarketAnswers) (version conditionId : String) : Prop where
  listing : ∃ market, answers.markets = .ok [market] ∧ market.find? "version" = some (.string version) ∧
    market.find? "conditionId" = some (.string conditionId)

theorem Listed.unique {answers : MarketAnswers} {version conditionId otherVersion otherId : String}
    (listed : Listed answers version conditionId) (other : Listed answers otherVersion otherId) :
    version = otherVersion ∧ conditionId = otherId := by
  obtain ⟨market, found, versioned, named⟩ := listed.listing
  obtain ⟨same, otherFound, otherVersioned, otherNamed⟩ := other.listing
  rw [found] at otherFound
  cases otherFound
  rw [versioned] at otherVersioned
  rw [named] at otherNamed
  cases otherVersioned
  cases otherNamed
  exact ⟨rfl, rfl⟩

theorem v2Context_ok {parseJson : String → Option Json} {market : Json} {contracts : PolymarketContracts}
    {wanted gammaId : String} {context : MarketPositionContext}
    (made : v2Context parseJson market contracts wanted gammaId = .ok context) :
    context.protocol = .v2 ∧ context.conditionId = gammaId := by
  obtain ⟨_, -, made⟩ := bind_ok made
  obtain ⟨_, -, made⟩ := bind_ok made
  obtain ⟨_, -, made⟩ := bind_ok made
  cases made
  exact ⟨rfl, rfl⟩

theorem ctfContext_ok {parseJson : String → Option Json} {market : Json} {contracts : PolymarketContracts}
    {wanted gammaId : String} {context : MarketPositionContext}
    (made : ctfContext parseJson market contracts wanted gammaId = .ok context) :
    context.protocol = .ctf ∧ context.conditionId = gammaId := by
  unfold ctfContext at made
  split at made
  · cases made
  · split at made
    · cases made
    · obtain ⟨_, -, made⟩ := bind_ok made
      obtain ⟨_, -, made⟩ := bind_ok made
      split at made
      · cases made
        exact ⟨rfl, rfl⟩
      · cases made

theorem marketContextFromGamma_ok {parseJson : String → Option Json} {markets : List Json} {conditionId : String}
    {contracts : PolymarketContracts} {context : MarketPositionContext}
    (made : marketContextFromGamma parseJson (.array markets) conditionId contracts = .ok context) :
    ∃ market version listed, markets = [market] ∧ market.find? "version" = some (.string version) ∧
      market.find? "conditionId" = some (.string listed) ∧ context.conditionId = evmNormalizeHex listed ∧
      (version = "v2" ↔ context.protocol = .v2) := by
  obtain ⟨wanted, -, parsed⟩ := bind_ok made
  clear made
  split at parsed
  · cases parsed
  · next market same =>
    cases same
    split at parsed
    · cases parsed
    · split at parsed
      · next listed named =>
        dsimp only at parsed
        split at parsed
        · cases parsed
        · split at parsed
          · next versioned =>
            obtain ⟨protocol, id⟩ := v2Context_ok parsed
            exact ⟨market, "v2", listed, rfl, versioned, named, id, iff_of_true rfl protocol⟩
          · next versioned =>
            obtain ⟨protocol, id⟩ := ctfContext_ok parsed
            refine ⟨market, "v1", listed, rfl, versioned, named, id, iff_of_false (by decide) ?_⟩
            rw [protocol]
            decide
          · cases parsed
          · cases parsed
      · cases parsed
  · cases parsed
  · cases parsed

/-- A resolved market has the protocol and the condition of its listing. -/
theorem resolveMarket_ok {environment : PositionEnvironment} {conditionId : String} {answers : MarketAnswers}
    {closedOnly : Bool} {market : MarketPositionContext}
    (resolved : resolveMarket environment conditionId answers closedOnly = .ok market) :
    ∃ version listed, Listed answers version listed ∧ market.conditionId = evmNormalizeHex listed ∧
      (version = "v2" ↔ market.protocol = .v2) := by
  obtain ⟨normalized, -, resolved⟩ := bind_ok resolved
  split at resolved
  · split at resolved
    · cases resolved
    · cases resolved
  · cases resolved
  · next markets _ found =>
    obtain ⟨market, version, listed, rfl, versioned, named, rest⟩ := marketContextFromGamma_ok resolved
    exact ⟨version, listed, ⟨market, found, versioned, named⟩, rest⟩

/-- A merge call that a batch emits for one request. -/
structure Merged (environment : PositionEnvironment) (entry : MergePositionRequest × MarketAnswers)
    (merge : MarketPositionContext × ContractCall) : Prop where
  resolved : resolveMarket environment entry.1.conditionId entry.2 false = .ok merge.1
  called : ∃ amount, mergeCall environment.keccak256 merge.1 environment.contracts amount = .ok merge.2

theorem mergeCalls_reached {environment : PositionEnvironment} {requests : List (MergePositionRequest × MarketAnswers)}
    {resolvedConditions : List String} {calls : List ContractCall}
    (reached : mergeCalls environment requests resolvedConditions = pure calls) :
    ∃ merges, List.Forall₂ (Merged environment) requests merges ∧ calls = merges.map Prod.snd ∧
      merges.Pairwise (fun left right => left.1.conditionId ≠ right.1.conditionId) ∧
      ∀ merge ∈ merges, merge.1.conditionId ∉ resolvedConditions := by
  induction requests generalizing resolvedConditions calls with
  | nil =>
      cases reached
      exact ⟨[], .nil, rfl, .nil, nofun⟩
  | cons entry rest ih =>
      obtain ⟨request, answers⟩ := entry
      obtain ⟨market, resolved, reached⟩ := bind_reached reached
      split at reached
      · cases reached
      · next fresh =>
        obtain ⟨_, -, reached⟩ := bind_reached reached
        obtain ⟨amount, -, reached⟩ := bind_reached reached
        obtain ⟨call, called, reached⟩ := bind_reached reached
        obtain ⟨others, later, reached⟩ := bind_reached reached
        cases reached
        obtain ⟨merges, each, joined, distinct, apart⟩ := ih later
        refine ⟨(market, call) :: merges, .cons ⟨outcome_reached resolved, amount, outcome_reached called⟩ each, ?_, ?_, ?_⟩
        · rw [joined, List.map_cons]
        · apply List.Pairwise.cons _ distinct
          intro merge member same
          exact apart merge member (List.mem_cons.mpr (.inl same.symm))
        · intro merge member
          obtain rfl | listed := List.mem_cons.mp member
          · exact fresh
          · exact fun seen => apart merge listed (List.mem_cons_of_mem _ seen)

/-! ## Conditions on chain -/

/-- The condition that a merge call names, as the contract of the protocol reads it. -/
def namedCondition (protocol : MarketProtocol) (call : ContractCall) : Option Bytes :=
  match protocol, mergeArguments protocol call with
  | .v2, some [.word condition, _] => some (condition.val.take 31)
  | .ctf, some [_, _, .word condition, _, _] => some condition.val
  | _, _ => none

/-- The calls touch different conditions. -/
def Apart (left right : MarketPositionContext × ContractCall) : Prop :=
  left.1.protocol = right.1.protocol → namedCondition left.1.protocol left.2 ≠ namedCondition right.1.protocol right.2

/-- Both answers list a V2 market, under two spellings of one condition. -/
def Respelled (left right : MarketAnswers) : Prop :=
  ∃ leftId rightId, Listed left "v2" leftId ∧ Listed right "v2" rightId ∧
    evmNormalizeHex leftId ≠ evmNormalizeHex rightId ∧
    (evmNormalizeHex leftId).toList.take 64 = (evmNormalizeHex rightId).toList.take 64

theorem routerMergeCall_named {keccak256 : String → Word} {router conditionId amount : String} {call : ContractCall}
    (made : routerMergeCall keccak256 router conditionId amount = .ok call) :
    ∃ condition text, namedCondition .v2 call = some condition ∧ fromHex text = .ok condition ∧ Normal text ∧
      text.toList = (evmNormalizeHex conditionId).toList.take 64 := by
  obtain ⟨bytes31, bytes, condition, value, cut, read, padded, -, decoded⟩ := routerMergeCall_ok made
  obtain ⟨front, width, normal⟩ := v2ConditionIdBytes31_ok cut
  have length : bytes.length = 31 := by
    rw [← toHex_fromHex normal read, Orders.toHex, String.toList_append, List.length_append, Orders.length_hexText] at width
    change 2 + _ = _ at width
    omega
  refine ⟨bytes, bytes31, ?_, read, normal, front⟩
  simp only [namedCondition, decoded]
  rw [padded, List.take_left' length]

theorem ctfMergePositionsCall_named {keccak256 : String → Word} {adapter collateral conditionId amount : String}
    {call : ContractCall} (made : ctfMergePositionsCall keccak256 adapter collateral conditionId amount = .ok call) :
    ∃ condition, namedCondition .ctf call = some condition ∧ fromHex (evmNormalizeHex conditionId) = .ok condition := by
  obtain ⟨normalized, condition, value, _, _, _, normal, read, -, decoded⟩ := ctfMergePositionsCall_ok made
  rw [normalizeConditionId_ok normal] at read
  refine ⟨condition.val, ?_, read⟩
  simp only [namedCondition, decoded]

theorem normal_conditionId {environment : PositionEnvironment} {conditionId : String} {answers : MarketAnswers}
    {closedOnly : Bool} {market : MarketPositionContext}
    (resolved : resolveMarket environment conditionId answers closedOnly = .ok market) : Normal market.conditionId := by
  obtain ⟨_, listed, -, id, -⟩ := resolveMarket_ok resolved
  rw [id]
  exact normal_evmNormalizeHex listed

/-- What the call of a merge names, by the condition of its market. -/
theorem Merged.named {environment : PositionEnvironment} {entry : MergePositionRequest × MarketAnswers}
    {merge : MarketPositionContext × ContractCall} (merged : Merged environment entry merge) :
    ∃ condition text, namedCondition merge.1.protocol merge.2 = some condition ∧ fromHex text = .ok condition ∧
      Normal text ∧ text.toList =
        if merge.1.protocol = .v2 then merge.1.conditionId.toList.take 64 else merge.1.conditionId.toList := by
  have normal := normal_conditionId merged.resolved
  obtain ⟨amount, called⟩ := merged.called
  obtain ⟨market, call⟩ := merge
  dsimp only at normal called ⊢
  unfold mergeCall at called
  split at called
  · next v2 =>
    obtain ⟨condition, text, named, read, textNormal, spelled⟩ := routerMergeCall_named called
    rw [normal] at spelled
    rw [if_pos v2, v2]
    exact ⟨condition, text, named, read, textNormal, spelled⟩
  · next other =>
    obtain ⟨condition, named, read⟩ := ctfMergePositionsCall_named called
    rw [normal] at read
    have ctf : market.protocol = .ctf := by
      cases protocol : market.protocol with
      | ctf => rfl
      | v2 => exact absurd protocol other
    rw [if_neg other, ctf]
    exact ⟨condition, market.conditionId, named, read, normal, rfl⟩

/-- Two merges of differently named markets touch different conditions unless one
condition is listed in two spellings. -/
theorem apart_iff {environment : PositionEnvironment} {left right : MergePositionRequest × MarketAnswers}
    {merge other : MarketPositionContext × ContractCall} (merged : Merged environment left merge)
    (otherMerged : Merged environment right other) (distinct : merge.1.conditionId ≠ other.1.conditionId) :
    Apart merge other ↔ ¬Respelled left.2 right.2 := by
  obtain ⟨version, listed, listing, id, isV2⟩ := resolveMarket_ok merged.resolved
  obtain ⟨otherVersion, otherListed, otherListing, otherId, otherIsV2⟩ := resolveMarket_ok otherMerged.resolved
  obtain ⟨condition, text, named, read, normal, spelled⟩ := merged.named
  obtain ⟨otherCondition, otherText, otherNamed, otherRead, otherNormal, otherSpelled⟩ := otherMerged.named
  have same : condition = otherCondition ↔ text = otherText := by
    constructor
    · rintro rfl
      exact fromHex_injective normal otherNormal read otherRead
    · rintro rfl
      rw [read] at otherRead
      exact Except.ok.inj otherRead
  unfold Apart
  rw [named, otherNamed]
  constructor
  · rintro apart ⟨leftId, rightId, leftListed, rightListed, -, cut⟩
    obtain ⟨rfl, rfl⟩ := listing.unique leftListed
    obtain ⟨rfl, rfl⟩ := otherListing.unique rightListed
    have v2 := isV2.mp rfl
    have otherV2 := otherIsV2.mp rfl
    have texts : text = otherText := by
      apply String.toList_inj.mp
      rw [spelled, otherSpelled, if_pos v2, if_pos otherV2, id, otherId, cut]
    apply apart (v2.trans otherV2.symm)
    rw [same.mpr texts]
  · intro unique protocols conditions
    have texts := congrArg String.toList (same.mp (Option.some.inj conditions))
    rw [spelled, otherSpelled, ← protocols] at texts
    split at texts
    · next v2 =>
      apply unique
      rw [id, otherId] at texts distinct
      have leftV2 := isV2.mpr v2
      have rightV2 := otherIsV2.mpr (protocols.symm.trans v2)
      subst leftV2 rightV2
      exact ⟨listed, otherListed, listing, otherListing, distinct, texts⟩
    · exact distinct (String.toList_inj.mp texts)

theorem forall_iff {α β : Type} {related : α → β → Prop} {below apart : β → Prop} {clash : α → Prop} {left : List α}
    {right : List β} (each : List.Forall₂ related left right) (fresh : ∀ second ∈ right, below second)
    (decides : ∀ {other second}, related other second → below second → (apart second ↔ clash other)) :
    (∀ second ∈ right, apart second) ↔ ∀ other ∈ left, clash other := by
  induction each with
  | nil => exact iff_of_true nofun nofun
  | cons head _ ih =>
      obtain ⟨first, others⟩ := List.forall_mem_cons.mp fresh
      rw [List.forall_mem_cons, List.forall_mem_cons, decides head first, ih others]

/-- A pairwise property of related lists. -/
theorem pairwise_iff {α β : Type} {related : α → β → Prop} {below apart : β → β → Prop} {clash : α → α → Prop}
    {left : List α} {right : List β} (each : List.Forall₂ related left right) (distinct : right.Pairwise below)
    (decides : ∀ {one other first second}, related one first → related other second → below first second →
      (apart first second ↔ clash one other)) : right.Pairwise apart ↔ left.Pairwise clash := by
  induction each with
  | nil => exact iff_of_true .nil .nil
  | @cons one first rest others head tail ih =>
      obtain ⟨fresh, apart⟩ := List.pairwise_cons.mp distinct
      have heads : (∀ second ∈ others, _) ↔ ∀ other ∈ rest, _ :=
        forall_iff tail fresh fun related below => decides head related below
      rw [List.pairwise_cons, List.pairwise_cons, heads, ih apart]

/-- In a batch that reaches the sender no two calls touch one condition on chain exactly
when Gamma lists no V2 condition in two spellings. -/
theorem batch_conditions_distinct {environment : PositionEnvironment}
    {requests : List (MergePositionRequest × MarketAnswers)} {calls : List ContractCall}
    (reached : mergeMultiplePositions environment requests = pure calls) :
    ∃ merges, List.Forall₂ (Merged environment) requests merges ∧ calls = merges.map Prod.snd ∧
      (merges.Pairwise Apart ↔ requests.Pairwise fun left right => ¬Respelled left.2 right.2) := by
  unfold mergeMultiplePositions at reached
  split at reached
  · cases reached
  · obtain ⟨_, -, reached⟩ := bind_reached reached
    obtain ⟨merges, each, joined, distinct, -⟩ := mergeCalls_reached reached
    exact ⟨merges, each, joined, pairwise_iff each distinct apart_iff⟩


/-- Two encoded balances are decoded to their decimal texts. -/
theorem decodeBinaryBalances_encoded (yes no : Word) :
    decodeBinaryBalances (Orders.toHex (Evm.Abi.evmAbiEncode [.array [.word yes, .word no]])) =
      pure (toString yes.toNat, toString no.toNat) := by
  have width : (Evm.Abi.evmAbiEncode [.array [.word yes, .word no]]).length = 128 := by
    simp [Evm.Abi.evmAbiEncode, Evm.Abi.encodedMembers, Evm.Abi.length_layOut, Evm.Abi.EncodedMember.headWidth,
      Evm.Abi.EncodedMember.tail, EvmAbiValue.isDynamic, EvmAbiValue.encoding, length_word, tails_nil]
  have decoded := @Evm.evmDecodeUintArray_encoded [] [yes, no] [] (by
    rw [Orders.toHex, String.toList_append, List.length_append, Orders.length_hexText]
    change 2 + 2 * (Evm.Abi.evmAbiEncode [.array [.word yes, .word no]]).length < _
    omega)
  have first : Evm.evmDecodeUintArrayAt (Orders.toHex (Evm.Abi.evmAbiEncode [.array [.word yes, .word no]])) 0 =
      pure [toString yes.toNat, toString no.toNat] := by
    unfold Evm.evmDecodeUintArrayAt
    rw [if_neg (by decide), Evm.add_pure (by decide), pure_bind]
    exact decoded
  unfold decodeBinaryBalances
  rw [first]
  rfl

theorem marketContextFromGamma_listed {parseJson : String → Option Json} {market : Json} {conditionId : String}
    {contracts : PolymarketContracts} (object : market.isObject = true)
    (named : market.find? "conditionId" = some (.string conditionId))
    (versioned : market.find? "version" = some (.string "v2"))
    (requested : normalizeRequestedConditionId conditionId = .ok conditionId) (normal : Normal conditionId) :
    marketContextFromGamma parseJson (.array [market]) conditionId contracts =
      v2Context parseJson market contracts conditionId conditionId := by
  have self : matchesRequest conditionId conditionId = true := by
    rw [matchesRequest, beq_self_eq_true, Bool.true_or]
  unfold marketContextFromGamma
  rw [requested, ok_bind]
  dsimp only
  rw [object, if_neg (by decide), named]
  dsimp only
  rw [normal, self, if_neg (by decide), versioned]
  rfl

theorem mergeCalls_cons {environment : PositionEnvironment} {request : MergePositionRequest} {answers : MarketAnswers}
    {rest : List (MergePositionRequest × MarketAnswers)} {resolvedConditions : List String}
    {market : MarketPositionContext} {balances : String × String} {amount : String} {call : ContractCall}
    {calls : List ContractCall} (resolved : resolveMarket environment request.conditionId answers false = .ok market)
    (fresh : market.conditionId ∉ resolvedConditions)
    (held : positionBalances environment market answers = pure balances)
    (mergeable : resolveMergeAmount market.conditionId balances request.amount = .ok amount)
    (called : mergeCall environment.keccak256 market environment.contracts amount = .ok call)
    (later : mergeCalls environment rest (market.conditionId :: resolvedConditions) = pure calls) :
    mergeCalls environment ((request, answers) :: rest) resolvedConditions = pure (call :: calls) := by
  rw [mergeCalls, resolved, Evm.outcome_ok, pure_bind, if_neg fresh, held, pure_bind, mergeable, Evm.outcome_ok, pure_bind,
    called, Evm.outcome_ok, pure_bind, later, pure_bind]

section Collision

def mainnetContracts : PolymarketContracts where
  collateralToken := "0xC011a7E12a19f7B1f670d46F03B03f3342E82DFB"
  conditionalTokens := "0x4D97DCd97eC945f40cF65F87097ACe5EA0476045"
  negRiskAdapter := "0xd91E80cF2E7be2e162c6513ceD06f1dD0dA35296"
  collateralAdapter := "0xAdA100Db00Ca00073811820692005400218FcE1f"
  negRiskCollateralAdapter := "0xadA2005600Dec949baf300f4C6120000bDB6eAab"
  protocolV2Router := "0x12121212006e4CD160D18e3f00711DA5c3372600"
  positionManager := "0x006F54F7f9A22e0000CC2AB60031000000ae9fEF"

def collidingEnvironment : PositionEnvironment where
  contracts := mainnetContracts
  walletAddress := "0x3535353535353535353535353535353535353535"
  keccak256 := fun text => Evm.Abi.mixedHash (Orders.utf8 text)
  parseJson := fun _ => none

def bytes31Id : String := "0x01" ++ String.ofList (List.replicate 60 '4')

def bytes32Id : String := bytes31Id ++ "00"

def heldBalances : String × String :=
  (toString (Evm.Abi.uint256Word 100).toNat, toString (Evm.Abi.uint256Word 60).toNat)

def balanceData : String :=
  Orders.toHex (Evm.Abi.evmAbiEncode [.array [.word (Evm.Abi.uint256Word 100), .word (Evm.Abi.uint256Word 60)]])

/-- A V2 market that Gamma lists under the requested spelling, and balances of 100 and 60. -/
def listedAs (conditionId : String) : MarketAnswers where
  markets := .ok [.object [("conditionId", .string conditionId), ("version", .string "v2"),
    ("positionIds", .array [.string "1", .string "2"])]]
  balances := .ok balanceData

def listedMarket (conditionId : String) : MarketPositionContext where
  protocol := .v2
  conditionId := conditionId
  tokenIds := ("1", "2")
  positionTokenContract := mainnetContracts.positionManager
  operatorContract := mainnetContracts.protocolV2Router

def requestOf (conditionId : String) : MergePositionRequest × MarketAnswers :=
  ({ conditionId := conditionId, amount := "1" }, listedAs conditionId)

/-- A spelling that is requested and listed as it is. -/
structure Spelling (conditionId : String) : Prop where
  requested : normalizeRequestedConditionId conditionId = .ok conditionId
  normal : Normal conditionId
  named : ∃ bytes31, v2ConditionIdBytes31 conditionId = .ok bytes31
  held : ∃ call, balanceOfBatchCall collidingEnvironment.keccak256 (listedMarket conditionId)
    collidingEnvironment.walletAddress = .ok call
  amount : resolveMergeAmount conditionId (heldBalances.1, heldBalances.2) "1" = .ok "1"
  called : ∃ call, mergeCall collidingEnvironment.keccak256 (listedMarket conditionId) mainnetContracts "1" = .ok call

theorem Spelling.resolves {conditionId : String} (spelling : Spelling conditionId) :
    resolveMarket collidingEnvironment conditionId (listedAs conditionId) false = .ok (listedMarket conditionId) := by
  obtain ⟨bytes31, cut⟩ := spelling.named
  have ids : binaryIds ["1", "2"] "positionIds" conditionId = .ok ("1", "2") := rfl
  have context : v2Context collidingEnvironment.parseJson
      (.object [("conditionId", .string conditionId), ("version", .string "v2"),
        ("positionIds", .array [.string "1", .string "2"])]) mainnetContracts conditionId conditionId =
      .ok (listedMarket conditionId) := by
    unfold v2Context
    rw [show stringSequence collidingEnvironment.parseJson _ "positionIds" conditionId = .ok ["1", "2"] from rfl, ok_bind,
      ids, ok_bind, cut, ok_bind]
    rfl
  unfold resolveMarket
  rw [spelling.requested, ok_bind]
  dsimp only [listedAs]
  rw [marketContextFromGamma_listed rfl rfl rfl spelling.requested spelling.normal]
  exact context

theorem Spelling.emits {conditionId : String} (spelling : Spelling conditionId)
    {rest : List (MergePositionRequest × MarketAnswers)} {resolvedConditions : List String} {calls : List ContractCall}
    (fresh : conditionId ∉ resolvedConditions)
    (later : mergeCalls collidingEnvironment rest (conditionId :: resolvedConditions) = pure calls) :
    ∃ call, mergeCalls collidingEnvironment (requestOf conditionId :: rest) resolvedConditions = pure (call :: calls) := by
  obtain ⟨balance, held⟩ := spelling.held
  obtain ⟨call, called⟩ := spelling.called
  have balances : positionBalances collidingEnvironment (listedMarket conditionId) (listedAs conditionId) =
      pure heldBalances := by
    unfold positionBalances
    rw [held, Evm.outcome_ok, pure_bind, show (listedAs conditionId).balances = .ok balanceData from rfl, Evm.outcome_ok,
      pure_bind, balanceData, decodeBinaryBalances_encoded]
    rfl
  exact ⟨call, mergeCalls_cons spelling.resolves fresh balances spelling.amount called later⟩

/-- The market, the balances and the amount do not depend on the spelling. -/
theorem spelling_of {conditionId : String} {digits : List Char} (spelled : conditionId.toList = '0' :: 'x' :: digits)
    (lower : digits.map Char.toLower = digits) (hex : digits.all isHexDigit = true)
    (width : digits.length = 62 ∨ digits.length = 64 ∧ ['0', '0'] <:+ digits) : Spelling conditionId := by
  have hex := List.all_eq_true.mp hex
  have normal : Normal conditionId := normal_of_toList (by rw [lower, spelled])
  have accepted : isHexString conditionId 64 = true ∨ isHexString conditionId 62 = true := by
    rcases width with short | ⟨long, -⟩
    · exact .inr (isHexString_iff.mpr ⟨digits, spelled, short, hex⟩)
    · exact .inl (isHexString_iff.mpr ⟨digits, spelled, long, hex⟩)
  obtain ⟨bytes31, cut, shape⟩ := v2ConditionIdBytes31_spelled normal spelled hex width
  obtain ⟨amount, parsed⟩ := exists_ok (parseUint256Word "1") (by decide +kernel)
  constructor
  · rw [normalizeRequestedConditionId, if_pos accepted, normal]
  · exact normal
  · exact ⟨bytes31, cut⟩
  · exact exists_ok (balanceOfBatchCall collidingEnvironment.keccak256 (listedMarket "") collidingEnvironment.walletAddress)
      (by decide +kernel)
  · rw [heldBalances, Evm.Abi.toNat_uint256Word, Evm.Abi.toNat_uint256Word]
    rfl
  · exact routerMergeCall_spelled cut shape parsed

theorem toList_bytes31Id : bytes31Id.toList = '0' :: 'x' :: '0' :: '1' :: List.replicate 60 '4' := by
  rw [bytes31Id, String.toList_append, String.toList_ofList]
  rfl

theorem toList_bytes32Id : bytes32Id.toList = '0' :: 'x' :: '0' :: '1' :: (List.replicate 60 '4' ++ ['0', '0']) := by
  rw [bytes32Id, String.toList_append, toList_bytes31Id]
  rfl

theorem spelling_bytes31Id : Spelling bytes31Id :=
  spelling_of toList_bytes31Id (by decide) (by decide) (by decide)

theorem spelling_bytes32Id : Spelling bytes32Id :=
  spelling_of toList_bytes32Id (by decide) (by decide) (by decide)

theorem requests_reach {requests : List (MergePositionRequest × MarketAnswers)} {calls : List ContractCall}
    (nonempty : requests.isEmpty = false) (distinct : checkDistinct (requests.map Prod.fst) [] = .ok ())
    (emitted : mergeCalls collidingEnvironment requests [] = pure calls) :
    mergeMultiplePositions collidingEnvironment requests = pure calls := by
  unfold mergeMultiplePositions
  rw [nonempty, if_neg Bool.false_ne_true, distinct, Evm.outcome_ok, pure_bind, emitted]

theorem checkDistinct_two {first second : String} (one : Spelling first) (other : Spelling second) (differ : first ≠ second) :
    checkDistinct [(requestOf first).1, (requestOf second).1] [] = .ok () := by
  have fresh : second ∉ [first] := fun member => differ (List.mem_singleton.mp member).symm
  rw [checkDistinct, show (requestOf first).1.conditionId = first from rfl, one.requested, ok_bind,
    if_neg List.not_mem_nil, checkDistinct, show (requestOf second).1.conditionId = second from rfl, other.requested,
    ok_bind, if_neg fresh]
  rfl

theorem listedAs_listed (conditionId : String) : Listed (listedAs conditionId) "v2" conditionId := ⟨_, rfl, rfl, rfl⟩

theorem bytes_ids_differ : bytes31Id ≠ bytes32Id := by
  intro same
  have lists := congrArg String.toList same
  rw [toList_bytes31Id, toList_bytes32Id] at lists
  exact absurd lists (by decide)

/-- Both spellings of one condition reach the sender. -/
theorem condition_merged_twice : ∃ calls merges,
    mergeMultiplePositions collidingEnvironment [requestOf bytes31Id, requestOf bytes32Id] = pure calls ∧
      List.Forall₂ (Merged collidingEnvironment) [requestOf bytes31Id, requestOf bytes32Id] merges ∧
      calls = merges.map Prod.snd ∧ ¬merges.Pairwise Apart := by
  have fresh : bytes32Id ∉ [bytes31Id] := fun member => bytes_ids_differ (List.mem_singleton.mp member).symm
  obtain ⟨second, last⟩ := @Spelling.emits _ spelling_bytes32Id [] [bytes31Id] [] fresh rfl
  obtain ⟨first, both⟩ := @Spelling.emits _ spelling_bytes31Id [requestOf bytes32Id] [] _ List.not_mem_nil last
  have distinct := checkDistinct_two spelling_bytes31Id spelling_bytes32Id bytes_ids_differ
  obtain ⟨merges, each, joined, ids, -⟩ := mergeCalls_reached both
  refine ⟨_, merges, requests_reach rfl distinct both, each, joined, ?_⟩
  intro apart
  cases each with
  | cons head tail =>
      cases tail with
      | cons next _ =>
          have pair := (List.pairwise_cons.mp apart).1 _ List.mem_cons_self
          have named := (List.pairwise_cons.mp ids).1 _ List.mem_cons_self
          apply (apart_iff head next named).mp pair
          refine ⟨bytes31Id, bytes32Id, listedAs_listed _, listedAs_listed _, ?_, ?_⟩
          · rw [spelling_bytes31Id.normal, spelling_bytes32Id.normal]
            exact bytes_ids_differ
          · rw [spelling_bytes31Id.normal, spelling_bytes32Id.normal, toList_bytes31Id, toList_bytes32Id]
            decide

def otherConditionId : String := "0x02" ++ String.ofList (List.replicate 60 '4') ++ "00"

theorem toList_otherConditionId :
    otherConditionId.toList = '0' :: 'x' :: '0' :: '2' :: (List.replicate 60 '4' ++ ['0', '0']) := by
  rw [otherConditionId, String.toList_append, String.toList_append, String.toList_ofList]
  rfl

theorem spelling_otherConditionId : Spelling otherConditionId :=
  spelling_of toList_otherConditionId (by decide) (by decide) (by decide)

/-- Two requests of different conditions are merged apart. -/
theorem batch_conditions_distinct_two : ∃ calls merges,
    mergeMultiplePositions collidingEnvironment [requestOf bytes32Id, requestOf otherConditionId] = pure calls ∧
      List.Forall₂ (Merged collidingEnvironment) [requestOf bytes32Id, requestOf otherConditionId] merges ∧
      calls = merges.map Prod.snd ∧ merges.Pairwise Apart := by
  have differ : bytes32Id ≠ otherConditionId := by
    intro same
    have lists := congrArg String.toList same
    rw [toList_bytes32Id, toList_otherConditionId] at lists
    exact absurd lists (by decide)
  have fresh : otherConditionId ∉ [bytes32Id] := fun member => differ (List.mem_singleton.mp member).symm
  obtain ⟨second, last⟩ := @Spelling.emits _ spelling_otherConditionId [] [bytes32Id] [] fresh rfl
  obtain ⟨first, both⟩ := @Spelling.emits _ spelling_bytes32Id [requestOf otherConditionId] [] _ List.not_mem_nil last
  have distinct := checkDistinct_two spelling_bytes32Id spelling_otherConditionId differ
  have reached := @requests_reach [requestOf bytes32Id, requestOf otherConditionId] _ rfl distinct both
  obtain ⟨merges, each, joined, decided⟩ := batch_conditions_distinct reached
  refine ⟨_, merges, reached, each, joined, decided.mpr ?_⟩
  apply List.pairwise_pair.mpr
  rintro ⟨leftId, rightId, left, right, -, cut⟩
  obtain ⟨-, rfl⟩ := left.unique (listedAs_listed bytes32Id)
  obtain ⟨-, rfl⟩ := right.unique (listedAs_listed otherConditionId)
  rw [spelling_bytes32Id.normal, spelling_otherConditionId.normal, toList_bytes32Id, toList_otherConditionId] at cut
  exact absurd cut (by decide)

end Collision

end Polymarket.Positions
