import Polymarket.Market.Runtime
import Polymarket.Rest.Numeric
import Polymarket.Settlement.Lookup

/-! The metadata of a market as the CLOB reports it, stored member by member into the
market, and what a body that is refused leaves behind. -/

set_option autoImplicit false

namespace Polymarket.Market

open Rest (JsonText getDouble getInt strictJsonNumber jsonOrderbookPrice)
open Settlement (HttpResponse)

/-- A market with what discovery adds to its state. -/
structure MarketRecord extends MarketState where
  slug : String := ""
  title : String := ""
  symbol : String := ""
  endTimeMs : UInt64 := 0
  negRisk : Bool := false
  feesEnabled : Bool := false
  feeRate : ℚ := 0
  feeExponent : Int32 := 1
deriving DecidableEq, Repr

/-- Assignments to a market that may stop half way. -/
abbrev MarketUpdate := ExceptT CppError (StateM MarketRecord)

def attempt {α : Type} (result : Except CppError α) : MarketUpdate α := ExceptT.mk (pure result)

def jsonDecimal (library : JsonText) : Json → String
  | .string text => text
  | value => library.dump value

def applyFee (fee : Json) : MarketUpdate PUnit := do
  let rate ← attempt (fee.value getDouble "r" 0)
  modify fun market => { market with feeRate := rate }
  let exponent ← attempt (fee.value getInt "e" 1)
  modify fun market => { market with feeExponent := exponent }
  modify fun market => { market with feesEnabled := decide (0 < market.feeRate) }

/-- The fees of the body, where it reports them. -/
def applyFees (info : Json) : MarketUpdate PUnit :=
  match info.find? "fd" with
  | some (.object members) => applyFee (.object members)
  | _ => pure ⟨⟩

def applyClobMarketInfoJson (library : JsonText) (text : String) : MarketUpdate Bool := do
  let info ← attempt (library.parse text)
  match info.find? "mos", info.find? "mts" with
  | some mos, some mts =>
      let size ← attempt (strictJsonNumber mos)
      modify fun market => { market with minimumOrderSize := size }
      -- The tick size is checked only now, behind the first assignment.
      let _ ← attempt (jsonOrderbookPrice mts)
      modify fun market => { market with minimumTickSize := jsonDecimal library mts }
      modify fun market => { market with feesEnabled := false, feeRate := 0, feeExponent := 1 }
      applyFees info
      let market ← get
      return decide (market.minimumTickSize ≠ "") && decide (0 < market.minimumOrderSize)
  | _, _ => return false

/-- The call: its result and the market after it. -/
def applyMarketInfo (library : JsonText) (text : String) (market : MarketRecord) :
    Except CppError Bool × MarketRecord :=
  (applyClobMarketInfoJson library text).run.run market

/-- `MarketFetcher::refresh_market_metadata`, given the response that the retries end with. -/
def refreshMarketMetadata (library : JsonText) (response : HttpResponse) (market : MarketRecord) :
    Bool × MarketRecord :=
  if response.ok then
    match applyMarketInfo library response.body market with
    | (.ok accepted, after) => (accepted, after)
    | (.error _, after) => (false, after)
  else (false, market)

/-! ## Outcomes -/

/-- The members a refresh stores. -/
structure MarketTerms where
  minimumOrderSize : ℚ
  minimumTickSize : String
  feesEnabled : Bool
  feeRate : ℚ
  feeExponent : Int32
deriving DecidableEq, Repr

def MarketRecord.terms (market : MarketRecord) : MarketTerms :=
  ⟨market.minimumOrderSize, market.minimumTickSize, market.feesEnabled, market.feeRate, market.feeExponent⟩

def MarketRecord.withTerms (market : MarketRecord) (terms : MarketTerms) : MarketRecord :=
  { market with
    minimumOrderSize := terms.minimumOrderSize
    minimumTickSize := terms.minimumTickSize
    feesEnabled := terms.feesEnabled
    feeRate := terms.feeRate
    feeExponent := terms.feeExponent }

@[simp] theorem MarketRecord.terms_withTerms (market : MarketRecord) (terms : MarketTerms) :
    (market.withTerms terms).terms = terms := rfl

theorem MarketRecord.withTerms_eq_iff {market : MarketRecord} {terms : MarketTerms} :
    market.withTerms terms = market ↔ terms = market.terms := by
  constructor
  · intro same
    rw [← congrArg MarketRecord.terms same, terms_withTerms]
  · rintro rfl
    rfl

/-- The rate of the fees, zero where the body reports none. -/
def feeRateOf (info : Json) : Except CppError ℚ :=
  match info.find? "fd" with
  | some (.object members) => (Json.object members).value getDouble "r" 0
  | _ => .ok 0

def feeExponentOf (info : Json) : Except CppError Int32 :=
  match info.find? "fd" with
  | some (.object members) => (Json.object members).value getInt "e" 1
  | _ => .ok 1

/-- What the body alone decides: the result, and what becomes of the terms. -/
def outcome (library : JsonText) (body : String) : Except CppError Bool × (MarketTerms → MarketTerms) :=
  match library.parse body with
  | .error error => (.error error, id)
  | .ok info =>
      match info.find? "mos", info.find? "mts" with
      | some mos, some mts =>
          let tick := jsonDecimal library mts
          match strictJsonNumber mos with
          | .error error => (.error error, id)
          | .ok size =>
              match jsonOrderbookPrice mts with
              | .error error => (.error error, fun terms => { terms with minimumOrderSize := size })
              | .ok _ =>
                  match feeRateOf info, feeExponentOf info with
                  | .error error, _ => (.error error, fun _ => ⟨size, tick, false, 0, 1⟩)
                  | .ok rate, .error error => (.error error, fun _ => ⟨size, tick, false, rate, 1⟩)
                  | .ok rate, .ok exponent =>
                      (.ok (decide (tick ≠ "") && decide (0 < size)),
                        fun _ => ⟨size, tick, decide (0 < rate), rate, exponent⟩)
      | _, _ => (.ok false, id)

section Runs

variable {α β : Type} (market : MarketRecord)

@[simp] theorem run_attempt_ok (value : α) (next : α → MarketUpdate β) :
    ((attempt (.ok value) >>= next).run.run market) = (next value).run.run market := rfl

@[simp] theorem run_modify (change : MarketRecord → MarketRecord) (next : PUnit → MarketUpdate β) :
    (((modify change : MarketUpdate PUnit) >>= next).run.run market) = (next ⟨⟩).run.run (change market) := rfl

/-- The fees of a body, stored in a market whose fees were reset. -/
theorem run_applyFees (info : Json) (size : ℚ) (tick : String) (next : PUnit → MarketUpdate β) :
    (applyFees info >>= next).run.run (market.withTerms ⟨size, tick, false, 0, 1⟩) =
      match feeRateOf info, feeExponentOf info with
      | .error error, _ => (.error error, market.withTerms ⟨size, tick, false, 0, 1⟩)
      | .ok rate, .error error => (.error error, market.withTerms ⟨size, tick, false, rate, 1⟩)
      | .ok rate, .ok exponent =>
          (next ⟨⟩).run.run (market.withTerms ⟨size, tick, decide (0 < rate), rate, exponent⟩) := by
  unfold applyFees feeRateOf feeExponentOf
  split
  · next members _ =>
    unfold applyFee
    cases rated : (Json.object members).value getDouble "r" 0 with
    | error error => rfl
    | ok rate =>
        cases raised : (Json.object members).value getInt "e" 1 with
        | error error => rfl
        | ok exponent => rfl
  · rfl

end Runs

/-- A call applies what its body decides. -/
theorem applyMarketInfo_eq (library : JsonText) (body : String) (market : MarketRecord) :
    applyMarketInfo library body market =
      ((outcome library body).1, market.withTerms ((outcome library body).2 market.terms)) := by
  unfold applyMarketInfo applyClobMarketInfoJson outcome
  cases library.parse body with
  | error error => rfl
  | ok info =>
      rw [run_attempt_ok]
      dsimp only
      split
      · next mos mts _ _ =>
        cases strictJsonNumber mos with
        | error error => rfl
        | ok size =>
            rw [run_attempt_ok, run_modify]
            cases jsonOrderbookPrice mts with
            | error error => rfl
            | ok price =>
                rw [run_attempt_ok, run_modify, run_modify]
                refine (run_applyFees market info size (jsonDecimal library mts) _).trans ?_
                cases feeRateOf info with
                | error error => rfl
                | ok rate =>
                    cases feeExponentOf info with
                    | error error => rfl
                    | ok exponent => rfl
      · rfl

/-! ## All or nothing -/

/-- A refresh that fails changes nothing, and one that succeeds stores the terms of its
body, whatever the market was. -/
structure AllOrNothing (library : JsonText) (body : String) (market : MarketRecord) : Prop where
  failed : (applyMarketInfo library body market).1 ≠ .ok true → (applyMarketInfo library body market).2 = market
  fetched : ∀ response : HttpResponse, response.body = body →
    (refreshMarketMetadata library response market).1 = false →
    (refreshMarketMetadata library response market).2 = market
  whole : (applyMarketInfo library body market).1 = .ok true →
    ∃ terms, ∀ other, applyMarketInfo library body other = (.ok true, other.withTerms terms)

/-- The body is an object with an order size and a tick size. -/
structure MarketInfo (library : JsonText) (body : String) (info mos mts : Json) : Prop where
  parsed : library.parse body = .ok info
  size : info.find? "mos" = some mos
  tick : info.find? "mts" = some mts

/-- The body is refused behind its first assignment, with what the assignments before the
refusal make of the terms. -/
inductive FailsAfter (library : JsonText) (body : String) : (MarketTerms → MarketTerms) → Prop where
  | badTick {info mos mts : Json} {size : ℚ} {error : CppError} : MarketInfo library body info mos mts →
      strictJsonNumber mos = .ok size → jsonOrderbookPrice mts = .error error →
      FailsAfter library body fun terms => { terms with minimumOrderSize := size }
  | badRate {info mos mts : Json} {size price : ℚ} {error : CppError} : MarketInfo library body info mos mts →
      strictJsonNumber mos = .ok size → jsonOrderbookPrice mts = .ok price → feeRateOf info = .error error →
      FailsAfter library body fun _ => ⟨size, jsonDecimal library mts, false, 0, 1⟩
  | badExponent {info mos mts : Json} {size price rate : ℚ} {error : CppError} :
      MarketInfo library body info mos mts → strictJsonNumber mos = .ok size →
      jsonOrderbookPrice mts = .ok price → feeRateOf info = .ok rate → feeExponentOf info = .error error →
      FailsAfter library body fun _ => ⟨size, jsonDecimal library mts, false, rate, 1⟩
  | refused {info mos mts : Json} {size price rate : ℚ} {exponent : Int32} : MarketInfo library body info mos mts →
      strictJsonNumber mos = .ok size → jsonOrderbookPrice mts = .ok price → feeRateOf info = .ok rate →
      feeExponentOf info = .ok exponent → jsonDecimal library mts = "" ∨ size ≤ 0 →
      FailsAfter library body fun _ => ⟨size, jsonDecimal library mts, decide (0 < rate), rate, exponent⟩

theorem outcome_of_failsAfter {library : JsonText} {body : String} {change : MarketTerms → MarketTerms}
    (late : FailsAfter library body change) :
    (outcome library body).1 ≠ .ok true ∧ (outcome library body).2 = change := by
  unfold outcome
  cases late with
  | badTick members sized priced => simp [members.parsed, members.size, members.tick, sized, priced]
  | badRate members sized priced rated => simp [members.parsed, members.size, members.tick, sized, priced, rated]
  | badExponent members sized priced rated raised =>
      simp [members.parsed, members.size, members.tick, sized, priced, rated, raised]
  | refused members sized priced rated raised empty =>
      simp only [members.parsed, members.size, members.tick, sized, priced, rated, raised]
      rcases empty with empty | small
      · simp [empty]
      · simp [not_lt.mpr small]

/-- A body fails before it assigns, fails behind an assignment, or replaces all the terms. -/
theorem outcome_cases (library : JsonText) (body : String) :
    ((outcome library body).1 ≠ .ok true ∧ (outcome library body).2 = id) ∨
      FailsAfter library body (outcome library body).2 ∨
      ((outcome library body).1 = .ok true ∧ ∃ terms, (outcome library body).2 = fun _ => terms) := by
  unfold outcome
  cases parsed : library.parse body with
  | error error => simp
  | ok info =>
      dsimp only
      split
      · next mos mts size tick =>
        have members : MarketInfo library body info mos mts := ⟨parsed, size, tick⟩
        cases sized : strictJsonNumber mos with
        | error error => simp
        | ok size =>
            cases priced : jsonOrderbookPrice mts with
            | error error => exact .inr (.inl (.badTick members sized priced))
            | ok price =>
                cases rated : feeRateOf info with
                | error error => exact .inr (.inl (.badRate members sized priced rated))
                | ok rate =>
                    cases raised : feeExponentOf info with
                    | error error => exact .inr (.inl (.badExponent members sized priced rated raised))
                    | ok exponent =>
                        by_cases empty : jsonDecimal library mts = "" ∨ size ≤ 0
                        · exact .inr (.inl (.refused members sized priced rated raised empty))
                        · obtain ⟨named, positive⟩ := not_or.mp empty
                          refine .inr (.inr ⟨?_, _, rfl⟩)
                          simp [named, not_le.mp positive]
      · simp

/-- What a failed fetch leaves is what the failed call leaves. -/
theorem refresh_unchanged {library : JsonText} {body : String} {market : MarketRecord}
    (failed : (applyMarketInfo library body market).1 ≠ .ok true → (applyMarketInfo library body market).2 = market)
    {response : HttpResponse} (carries : response.body = body)
    (refused : (refreshMarketMetadata library response market).1 = false) :
    (refreshMarketMetadata library response market).2 = market := by
  subst carries
  unfold refreshMarketMetadata at refused ⊢
  split
  · next success =>
    rw [if_pos success] at refused
    generalize applyMarketInfo library response.body market = called at failed refused
    obtain ⟨result, after⟩ := called
    cases result with
    | error error => exact failed (by simp)
    | ok accepted =>
        cases (refused : accepted = false)
        exact failed (by simp)
  · rfl

/-- A refresh is all or nothing exactly when a body that fails behind an assignment assigns
only what the market has. -/
theorem refresh_allOrNothing_iff (library : JsonText) (body : String) (market : MarketRecord) :
    AllOrNothing library body market ↔
      ∀ change, FailsAfter library body change → change market.terms = market.terms := by
  have called := applyMarketInfo_eq library body market
  constructor
  · intro whole change late
    obtain ⟨unsuccessful, same⟩ := outcome_of_failsAfter late
    have unchanged := whole.failed (by rwa [called])
    rw [called, same] at unchanged
    exact MarketRecord.withTerms_eq_iff.mp unchanged
  · intro harmless
    have failed (unsuccessful : (applyMarketInfo library body market).1 ≠ .ok true) :
        (applyMarketInfo library body market).2 = market := by
      rw [called] at unsuccessful ⊢
      rw [MarketRecord.withTerms_eq_iff]
      rcases outcome_cases library body with ⟨-, nothing⟩ | late | ⟨success, -⟩
      · rw [nothing, id]
      · exact harmless _ late
      · exact absurd success unsuccessful
    constructor
    · exact failed
    · exact fun response carries refused => refresh_unchanged failed carries refused
    · intro success
      rw [called] at success
      rcases outcome_cases library body with ⟨unsuccessful, -⟩ | late | ⟨-, terms, constant⟩
      · exact absurd success unsuccessful
      · exact absurd success (outcome_of_failsAfter late).1
      · refine ⟨terms, fun other => ?_⟩
        rw [applyMarketInfo_eq, success, constant]

/-! ## A tick size that is no number -/

def tornBody : String := "\x7b\"mos\":5,\"mts\":\"bogus\"\x7d"

/-- The reader on this body. -/
def tornReader : JsonText where
  parse text :=
    if text = tornBody then .ok (.object [("mos", .unsigned 5), ("mts", .string "bogus")]) else .error .jsonParseError
  dump _ := ""

def tornMarket : MarketRecord where
  conditionId := "0x01"
  tokenYes := "1"
  tokenNo := "2"
  minimumOrderSize := 15
  minimumTickSize := "0.01"

/-- The order size is stored, then the tick size throws: the market keeps the new size with
the old tick size. -/
theorem refresh_torn :
    (refreshMarketMetadata tornReader { statusCode := 200, body := tornBody } tornMarket) =
        (false, { tornMarket with minimumOrderSize := 5 }) ∧
      ¬AllOrNothing tornReader tornBody tornMarket := by
  have fetched : (refreshMarketMetadata tornReader { statusCode := 200, body := tornBody } tornMarket) =
      (false, { tornMarket with minimumOrderSize := 5 }) := by decide +kernel
  refine ⟨fetched, fun whole => ?_⟩
  have unchanged := whole.fetched { statusCode := 200, body := tornBody } rfl (by rw [fetched])
  rw [fetched] at unchanged
  have sizes : (5 : ℚ) = 15 := congrArg (fun market => market.minimumOrderSize) unchanged
  exact absurd sizes (by decide)

end Polymarket.Market
