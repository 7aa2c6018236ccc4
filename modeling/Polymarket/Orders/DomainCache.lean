import Mathlib.Data.List.Induction
import Mathlib.Logic.Function.Basic
import Polymarket.Orders.Signing

/-! The cached domain hash of a signer. The entry of an address is created before
its hash is computed, so an address that is rejected leaves a zero hash behind. -/

set_option autoImplicit false

namespace Polymarket.Orders

/-! ## Domain hashes -/

/-- The low four bytes of the chain id in a word, shifted as a signed integer. -/
def chainIdBytes (chainId : Int) : Bytes :=
  zeroWord.take 28 ++ [24, 16, 8, 0].map fun shift : Nat => UInt8.ofInt (chainId >>> shift)

def hashDomain (keccak256 : Bytes → Bytes) (name version : String) (chainId : Int)
    (verifyingContract : String) : Except CppError Bytes := do
  let contract ← fromHex verifyingContract
  if contract.length ≠ 20 then
    .error (.invalidArgument "verifying contract must be a 20-byte address")
  else
    .ok (keccak256 (keccak256 (utf8 ("EIP712Domain(string name,string version,uint256 chainId," ++
        "address verifyingContract)")) ++ keccak256 (utf8 name) ++ keccak256 (utf8 version) ++
      chainIdBytes chainId ++ List.replicate 12 0 ++ contract))

/-- The domain that version 2 orders are signed for. -/
def exchangeDomain (signer : OrderSigner) (exchangeAddress : String) : Except CppError Bytes :=
  hashDomain signer.keccak256 "Polymarket CTF Exchange" "2" signer.chainId exchangeAddress

abbrev DomainCache := String → Option Bytes

/-- `v2_domain_hash`: `try_emplace` makes a zero entry, which the hash replaces. -/
def v2DomainHash (signer : OrderSigner) (exchangeAddress : String) (cache : DomainCache) :
    Except CppError Bytes × DomainCache :=
  match cache exchangeAddress with
  | some hash => (.ok hash, cache)
  | none =>
      let emplaced := Function.update cache exchangeAddress (some zeroWord)
      match exchangeDomain signer exchangeAddress with
      | .ok hash => (.ok hash, Function.update emplaced exchangeAddress (some hash))
      | .error error => (.error error, emplaced)

/-- `sign_order_with_salt` on a signer with its cache. -/
def signOrderCached (signer : OrderSigner) (order : OrderData) (exchangeAddress salt : String)
    (cache : DomainCache) : Except CppError SignedOrder × DomainCache :=
  match validateOrderEnums order with
  | .error error => (.error error, cache)
  | .ok () =>
      let domain := v2DomainHash signer exchangeAddress cache
      (signOrderWithSalt { signer with v2DomainHash := fun _ => domain.1 } order exchangeAddress salt,
        domain.2)

/-! ## Calls -/

inductive SignerCall where
  | domainHash (exchangeAddress : String)
  | sign (order : OrderData) (exchangeAddress salt : String)

namespace SignerCall

/-- The address whose domain hash the call asks for. -/
def domain? : SignerCall → Option String
  | .domainHash exchangeAddress => some exchangeAddress
  | .sign order exchangeAddress _ =>
      match validateOrderEnums order with
      | .ok () => some exchangeAddress
      | .error _ => none

/-- The cache after the call. -/
def run (signer : OrderSigner) : SignerCall → DomainCache → DomainCache
  | .domainHash exchangeAddress, cache => (v2DomainHash signer exchangeAddress cache).2
  | .sign order exchangeAddress salt, cache =>
      (signOrderCached signer order exchangeAddress salt cache).2

end SignerCall

def runCalls (signer : OrderSigner) (calls : List SignerCall) (cache : DomainCache) : DomainCache :=
  calls.foldl (fun cache call => call.run signer cache) cache

/-- The answer is the domain's own, up to which exception is thrown. -/
def DomainAnswered (signer : OrderSigner) (exchangeAddress : String) :
    Except CppError Bytes → Prop
  | .ok hash => exchangeDomain signer exchangeAddress = .ok hash
  | .error _ => ∃ error, exchangeDomain signer exchangeAddress = .error error

/-- A domain hash is the domain's own and is only cached when there is one, and an
order is only signed under it. -/
structure Transparent (signer : OrderSigner) (call : SignerCall) (cache : DomainCache) : Prop where
  answered : ∀ exchangeAddress ∈ call.domain?,
    DomainAnswered signer exchangeAddress (v2DomainHash signer exchangeAddress cache).1
  unchanged : ∀ exchangeAddress ∈ call.domain?, ∀ error,
    (v2DomainHash signer exchangeAddress cache).1 = .error error →
      (v2DomainHash signer exchangeAddress cache).2 = cache
  signed : ∀ order exchangeAddress salt, call = .sign order exchangeAddress salt → ∀ signedOrder,
    (signOrderCached signer order exchangeAddress salt cache).1 = .ok signedOrder →
      signOrderWithSalt { signer with v2DomainHash := exchangeDomain signer } order exchangeAddress salt =
        .ok signedOrder

/-- Every call of a sequence is transparent for the calls before it. -/
def AlwaysTransparent (signer : OrderSigner) (calls : List SignerCall) : Prop :=
  ∀ before call after, calls = before ++ call :: after →
    Transparent signer call (runCalls signer before fun _ => none)

/-! ## The cache of a history -/

variable {signer : OrderSigner}

/-- The addresses whose domain hash was asked for. -/
def askedFor (calls : List SignerCall) : List String := calls.filterMap SignerCall.domain?

/-- What an address leaves in the cache. -/
def cachedEntry (signer : OrderSigner) (exchangeAddress : String) : Bytes :=
  match exchangeDomain signer exchangeAddress with
  | .ok hash => hash
  | .error _ => zeroWord

theorem v2DomainHash_cached {exchangeAddress : String} {cache : DomainCache} {hash : Bytes}
    (cached : cache exchangeAddress = some hash) :
    v2DomainHash signer exchangeAddress cache = (.ok hash, cache) := by
  simp only [v2DomainHash, cached]

variable (signer) in
theorem v2DomainHash_new {exchangeAddress : String} {cache : DomainCache}
    (absent : cache exchangeAddress = none) :
    v2DomainHash signer exchangeAddress cache =
      (exchangeDomain signer exchangeAddress,
        Function.update cache exchangeAddress (some (cachedEntry signer exchangeAddress))) := by
  simp only [v2DomainHash, absent, cachedEntry]
  cases exchangeDomain signer exchangeAddress with
  | ok hash => simp
  | error error => rfl

theorem signOrderCached_cache (order : OrderData) (exchangeAddress salt : String) (cache : DomainCache) :
    (signOrderCached signer order exchangeAddress salt cache).2 =
      match validateOrderEnums order with
      | .ok () => (v2DomainHash signer exchangeAddress cache).2
      | .error _ => cache := by
  unfold signOrderCached
  cases validateOrderEnums order with
  | ok _ => rfl
  | error error => rfl

theorem SignerCall.run_cache (call : SignerCall) (cache : DomainCache) :
    call.run signer cache = match call.domain? with
      | some exchangeAddress => (v2DomainHash signer exchangeAddress cache).2
      | none => cache := by
  cases call with
  | domainHash exchangeAddress => rfl
  | sign order exchangeAddress salt =>
      simp only [SignerCall.run, SignerCall.domain?, signOrderCached_cache]
      cases validateOrderEnums order with
      | ok _ => rfl
      | error error => rfl

variable (signer) in
/-- After a history exactly the addresses asked for are cached. -/
theorem runCalls_entry (calls : List SignerCall) (exchangeAddress : String) :
    runCalls signer calls (fun _ => none) exchangeAddress =
      if exchangeAddress ∈ askedFor calls then some (cachedEntry signer exchangeAddress) else none := by
  induction calls using List.reverseRecOn generalizing exchangeAddress with
  | nil => rfl
  | append_singleton before call ih =>
      have last : runCalls signer (before ++ [call]) (fun _ => none) =
          call.run signer (runCalls signer before fun _ => none) := List.foldl_append ..
      rw [last, SignerCall.run_cache]
      cases asked : call.domain? with
      | none => simp [askedFor, asked, ih]
      | some other =>
          have listed : askedFor (before ++ [call]) = askedFor before ++ [other] := by
            simp [askedFor, asked]
          rw [listed]
          dsimp only
          cases held : runCalls signer before (fun _ => none) other with
          | some hash =>
              have known : other ∈ askedFor before := by
                by_contra absent
                rw [ih, if_neg absent] at held
                cases held
              have same : exchangeAddress ∈ askedFor before ++ [other] ↔ exchangeAddress ∈ askedFor before := by
                rw [List.mem_append, List.mem_singleton]
                exact or_iff_left_of_imp fun isOther => isOther ▸ known
              rw [v2DomainHash_cached held]
              dsimp only
              rw [ih]
              simp only [same]
          | none =>
              rw [v2DomainHash_new signer held]
              by_cases isOther : exchangeAddress = other
              · simp [isOther]
              · simp [ih, isOther]

/-! ## When the cache is transparent -/

/-- An order is signed under the answer of its domain hash. -/
theorem signOrderCached_signed {order : OrderData} {exchangeAddress salt : String} {cache : DomainCache}
    {result : SignedOrder} (signed : (signOrderCached signer order exchangeAddress salt cache).1 = .ok result) :
    ∃ hash, (v2DomainHash signer exchangeAddress cache).1 = .ok hash ∧
      SignerCall.domain? (.sign order exchangeAddress salt) = some exchangeAddress ∧
      ∀ domain : String → Except CppError Bytes, domain exchangeAddress = .ok hash →
        signOrderWithSalt { signer with v2DomainHash := domain } order exchangeAddress salt = .ok result := by
  unfold signOrderCached at signed
  cases enums : validateOrderEnums order with
  | error error =>
      rw [enums] at signed
      cases signed
  | ok _ =>
      rw [enums] at signed
      obtain ⟨_, _, inner⟩ := bind_ok signed
      obtain ⟨hash, answer, rest⟩ := bind_ok inner
      refine ⟨hash, answer, by simp only [SignerCall.domain?, enums], ?_⟩
      intro domain same
      unfold signOrderWithSalt
      rw [enums]
      simp only [same]
      exact rest

theorem transparent_of_answered {call : SignerCall} {cache : DomainCache}
    (known : ∀ exchangeAddress ∈ call.domain?, ∃ hash,
      exchangeDomain signer exchangeAddress = .ok hash ∧
        (v2DomainHash signer exchangeAddress cache).1 = .ok hash) : Transparent signer call cache := by
  constructor
  · intro exchangeAddress asked
    obtain ⟨hash, domain, answer⟩ := known exchangeAddress asked
    rw [answer]
    exact domain
  · intro exchangeAddress asked error thrown
    obtain ⟨hash, _, answer⟩ := known exchangeAddress asked
    cases answer.symm.trans thrown
  · intro order exchangeAddress salt isSign result signed
    obtain ⟨hash, answer, asked, under⟩ := signOrderCached_signed signed
    subst isSign
    obtain ⟨own, domain, same⟩ := known exchangeAddress asked
    cases answer.symm.trans same
    exact under _ domain

/-- The cache is transparent for a sequence of calls if and only if none of them
asks for a domain that is rejected. -/
theorem domainCache_transparent_iff (signer : OrderSigner) (calls : List SignerCall) :
    AlwaysTransparent signer calls ↔ ∀ call ∈ calls, ∀ exchangeAddress ∈ call.domain?,
      ∃ hash, exchangeDomain signer exchangeAddress = .ok hash := by
  constructor
  · intro transparent call member exchangeAddress asked
    obtain ⟨before, after, rfl⟩ := List.append_of_mem member
    have now := transparent before call after rfl
    cases domain : exchangeDomain signer exchangeAddress with
    | ok hash => exact ⟨hash, rfl⟩
    | error error =>
        have entry := runCalls_entry signer before exchangeAddress
        exfalso
        by_cases earlier : exchangeAddress ∈ askedFor before
        · rw [if_pos earlier] at entry
          have answered := now.answered exchangeAddress asked
          rw [v2DomainHash_cached entry] at answered
          cases domain.symm.trans answered
        · rw [if_neg earlier] at entry
          have created := v2DomainHash_new signer entry
          have same := now.unchanged exchangeAddress asked error (by rw [created, domain])
          rw [created] at same
          have impossible := congrFun same exchangeAddress
          simp [entry] at impossible
  · intro accepted before call after split
    subst split
    apply transparent_of_answered
    intro exchangeAddress asked
    obtain ⟨hash, domain⟩ := accepted call (by simp) exchangeAddress asked
    refine ⟨hash, domain, ?_⟩
    have entry := runCalls_entry signer before exchangeAddress
    split at entry
    · rw [v2DomainHash_cached entry]
      simp [cachedEntry, domain]
    · rw [v2DomainHash_new signer entry]
      exact domain

/-- Its answers alone are right as long as no rejected domain is asked for twice. -/
theorem domainHashes_answered_iff (signer : OrderSigner) (calls : List SignerCall) :
    (∀ before call after, calls = before ++ call :: after → ∀ exchangeAddress ∈ call.domain?,
      DomainAnswered signer exchangeAddress
        (v2DomainHash signer exchangeAddress (runCalls signer before fun _ => none)).1) ↔
      ∀ before call after, calls = before ++ call :: after → ∀ exchangeAddress ∈ call.domain?,
        exchangeAddress ∈ askedFor before → ∃ hash, exchangeDomain signer exchangeAddress = .ok hash := by
  constructor
  · intro answered before call after split exchangeAddress asked earlier
    have entry := runCalls_entry signer before exchangeAddress
    rw [if_pos earlier] at entry
    have now := answered before call after split exchangeAddress asked
    rw [v2DomainHash_cached entry] at now
    exact ⟨_, now⟩
  · intro accepted before call after split exchangeAddress asked
    have entry := runCalls_entry signer before exchangeAddress
    by_cases earlier : exchangeAddress ∈ askedFor before
    · obtain ⟨hash, domain⟩ := accepted before call after split exchangeAddress asked earlier
      rw [if_pos earlier] at entry
      rw [v2DomainHash_cached entry]
      simp [DomainAnswered, cachedEntry, domain]
    · rw [if_neg earlier] at entry
      rw [v2DomainHash_new signer entry]
      cases domain : exchangeDomain signer exchangeAddress with
      | ok hash => exact domain
      | error error => exact ⟨error, domain⟩

/-- A signer without cryptography, for addresses that are rejected before any. -/
def plainSigner : OrderSigner where
  address := ""
  chainId := 137
  keccak256 := id
  v2DomainHash _ := .ok []
  signHash _ := .ok ""
  currentTimeMillis := "0"

/-- The second time the address of two bytes is answered with a zero hash. -/
theorem rejectedDomain_answered :
    (v2DomainHash plainSigner "0x1234" (runCalls plainSigner [.domainHash "0x1234"] fun _ => none)).1 =
        .ok zeroWord ∧
      ¬AlwaysTransparent plainSigner [.domainHash "0x1234", .domainHash "0x1234"] := by
  have answer : (v2DomainHash plainSigner "0x1234"
      (runCalls plainSigner [.domainHash "0x1234"] fun _ => none)).1 = .ok zeroWord := by
    decide +kernel
  refine ⟨answer, ?_⟩
  intro transparent
  have answered := (transparent [.domainHash "0x1234"] (.domainHash "0x1234") [] rfl).answered "0x1234" rfl
  rw [answer] at answered
  have rejected : exchangeDomain plainSigner "0x1234" =
      .error (.invalidArgument "verifying contract must be a 20-byte address") := by
    decide +kernel
  cases rejected.symm.trans answered

end Polymarket.Orders
