import Polymarket.Decimal

/-! Running totals of order book depth in 64-bit units. The code runs on words that
wrap, and again on words where wrapping is a failure. -/

set_option autoImplicit false

namespace Polymarket.Orders

/-! ## Word arithmetic -/

/-- The arithmetic of 64-bit words, with an effect where it wraps. -/
structure WordArithmetic (m : Type → Type) where
  add : UInt64 → UInt64 → m UInt64
  subtract : UInt64 → UInt64 → m UInt64
  multiply : UInt64 → UInt64 → m UInt64

def wrapping : WordArithmetic Id where
  add left right := left + right
  subtract left right := left - right
  multiply left right := left * right

/-- Fails where the result is not the exact one. -/
def wrapFree : WordArithmetic Option where
  add left right := if left.toNat + right.toNat < 2 ^ 64 then some (left + right) else none
  subtract left right := if right.toNat ≤ left.toNat then some (left - right) else none
  multiply left right := if left.toNat * right.toNat < 2 ^ 64 then some (left * right) else none

/-! ## Totals -/

def depthScale : UInt64 := 1000000

structure AccumulatedNotional where
  units : UInt64 := 0
  fractionalUnits : UInt64 := 0
  saturated : Bool := false
deriving DecidableEq, Repr

def AccumulatedNotional.covers (total : AccumulatedNotional) (target : UInt64) : Bool :=
  total.saturated || decide (target ≤ total.units)

structure AccumulatedSize where
  units : UInt64 := 0
  saturated : Bool := false
deriving DecidableEq, Repr

def AccumulatedSize.covers (total : AccumulatedSize) (target : UInt64) : Bool :=
  total.saturated || decide (target ≤ total.units)

section Code

variable {m : Type → Type} [Monad m] (words : WordArithmetic m)

/-- The end of `add_notional`: what one level contributes goes into the total. -/
def addContribution (total : AccumulatedNotional) (contributionUnits contributionFraction : UInt64) :
    m AccumulatedNotional := do
  let left ← words.subtract uint64Max total.units
  if left < contributionUnits then pure { total with saturated := true }
  else
    let units ← words.add total.units contributionUnits
    let fractionalUnits ← words.add total.fractionalUnits contributionFraction
    if fractionalUnits < depthScale then pure { total with units, fractionalUnits }
    else
      let fractionalUnits ← words.subtract fractionalUnits depthScale
      if units = uint64Max then pure ⟨units, fractionalUnits, true⟩
      else
        let units ← words.add units 1
        pure { total with units, fractionalUnits }

def addNotional (total : AccumulatedNotional) (sizeUnits priceUnits : UInt64) : m AccumulatedNotional := do
  if total.saturated then pure total
  else
    let sizeWhole := sizeUnits / depthScale
    let sizeFraction := sizeUnits % depthScale
    let fractionalProduct ← words.multiply sizeFraction priceUnits
    let fractionalWhole := fractionalProduct / depthScale
    let contributionFraction := fractionalProduct % depthScale
    let room ← words.subtract uint64Max fractionalWhole
    if priceUnits ≠ 0 ∧ room / priceUnits < sizeWhole then pure { total with saturated := true }
    else
      let wholeProduct ← words.multiply sizeWhole priceUnits
      let contributionUnits ← words.add wholeProduct fractionalWhole
      addContribution words total contributionUnits contributionFraction

def addSize (total : AccumulatedSize) (sizeUnits : UInt64) : m AccumulatedSize := do
  if total.saturated then pure total
  else
    let left ← words.subtract uint64Max total.units
    if left < sizeUnits then pure { total with saturated := true }
    else
      let units ← words.add total.units sizeUnits
      pure { total with units }

def accumulateNotional (levels : List (UInt64 × UInt64)) : m AccumulatedNotional :=
  levels.foldlM (fun total level => addNotional words total level.1 level.2) {}

def accumulateSize (sizes : List UInt64) : m AccumulatedSize :=
  sizes.foldlM (addSize words) {}

end Code

/-! ## Wrapping where nothing wraps -/

/-- A run that never fails gives what the wrapping run gives. -/
def Agrees {α : Type} (checked : Option α) (wrapped : Id α) : Prop :=
  ∀ value, checked = some value → wrapped = value

theorem Agrees.pure {α : Type} (value : α) : Agrees (Pure.pure value) (Pure.pure value) := by
  intro _ returned
  exact Option.some.inj returned

theorem Agrees.bind {α β : Type} {checked : Option α} {wrapped : Id α} (agrees : Agrees checked wrapped)
    {checkedRest : α → Option β} {wrappedRest : α → Id β}
    (rest : ∀ value, Agrees (checkedRest value) (wrappedRest value)) :
    Agrees (checked >>= checkedRest) (wrapped >>= wrappedRest) := by
  intro result returned
  obtain ⟨value, first, second⟩ := Option.bind_eq_some_iff.mp returned
  change wrappedRest wrapped = result
  rw [agrees value first]
  exact rest value result second

theorem Agrees.ite {α : Type} {condition : Prop} [Decidable condition] {checked other : Option α}
    {wrapped otherWrapped : Id α} (holds : Agrees checked wrapped) (fails : Agrees other otherWrapped) :
    Agrees (if condition then checked else other) (if condition then wrapped else otherWrapped) := by
  split
  · exact holds
  · exact fails

theorem Agrees.guarded {condition : Prop} [Decidable condition] (value : UInt64) :
    Agrees (if condition then some value else none) value := by
  intro result returned
  split at returned
  · exact Option.some.inj returned
  · cases returned

theorem addContribution_agrees (total : AccumulatedNotional) (contributionUnits contributionFraction : UInt64) :
    Agrees (addContribution wrapFree total contributionUnits contributionFraction)
      (addContribution wrapping total contributionUnits contributionFraction) := by
  unfold addContribution
  apply Agrees.bind (.guarded _)
  intro left
  apply Agrees.ite (.pure _)
  apply Agrees.bind (.guarded _)
  intro units
  apply Agrees.bind (.guarded _)
  intro fractionalUnits
  apply Agrees.ite (.pure _)
  apply Agrees.bind (.guarded _)
  intro carried
  apply Agrees.ite (.pure _)
  apply Agrees.bind (.guarded _)
  intro incremented
  exact .pure _

theorem addNotional_agrees (total : AccumulatedNotional) (sizeUnits priceUnits : UInt64) :
    Agrees (addNotional wrapFree total sizeUnits priceUnits)
      (addNotional wrapping total sizeUnits priceUnits) := by
  unfold addNotional
  apply Agrees.ite (.pure _)
  apply Agrees.bind (.guarded _)
  intro fractionalProduct
  apply Agrees.bind (.guarded _)
  intro room
  apply Agrees.ite (.pure _)
  apply Agrees.bind (.guarded _)
  intro wholeProduct
  apply Agrees.bind (.guarded _)
  intro contributionUnits
  exact addContribution_agrees _ _ _

theorem addSize_agrees (total : AccumulatedSize) (sizeUnits : UInt64) :
    Agrees (addSize wrapFree total sizeUnits) (addSize wrapping total sizeUnits) := by
  unfold addSize
  apply Agrees.ite (.pure _)
  apply Agrees.bind (.guarded _)
  intro left
  apply Agrees.ite (.pure _)
  apply Agrees.bind (.guarded _)
  intro units
  exact .pure _

theorem some_bind {α β : Type} (value : α) (continuation : α → Option β) :
    (some value >>= continuation) = continuation value := rfl

theorem wrapFree_add {left right : UInt64} (fits : left.toNat + right.toNat < 2 ^ 64) :
    wrapFree.add left right = some (left + right) := if_pos fits

theorem wrapFree_subtract {left right : UInt64} (fits : right.toNat ≤ left.toNat) :
    wrapFree.subtract left right = some (left - right) := if_pos fits

theorem wrapFree_multiply {left right : UInt64} (fits : left.toNat * right.toNat < 2 ^ 64) :
    wrapFree.multiply left right = some (left * right) := if_pos fits

theorem toNat_add_fits (left right : UInt64) (fits : left.toNat + right.toNat < 2 ^ 64) :
    (left + right).toNat = left.toNat + right.toNat := by
  rw [UInt64.toNat_add, Nat.mod_eq_of_lt fits]

theorem toNat_mul_fits (left right : UInt64) (fits : left.toNat * right.toNat < 2 ^ 64) :
    (left * right).toNat = left.toNat * right.toNat := by
  rw [UInt64.toNat_mul, Nat.mod_eq_of_lt fits]

theorem toNat_sub_fits (left right : UInt64) (fits : right.toNat ≤ left.toNat) :
    (left - right).toNat = left.toNat - right.toNat :=
  UInt64.toNat_sub_of_le _ _ (UInt64.le_iff_toNat_le.mpr fits)

/-! ## What a total stands for -/

/-- A total of millionths of a unit. -/
structure AccumulatedNotional.Represents (total : AccumulatedNotional) (exact_ : Nat) : Prop where
  saturated : total.saturated = true → 2 ^ 64 * 10 ^ 6 ≤ exact_
  exact : total.saturated = false →
    total.units.toNat * 10 ^ 6 + total.fractionalUnits.toNat = exact_ ∧ total.fractionalUnits.toNat < 10 ^ 6

structure AccumulatedSize.Represents (total : AccumulatedSize) (exact_ : Nat) : Prop where
  saturated : total.saturated = true → 2 ^ 64 ≤ exact_
  exact : total.saturated = false → total.units.toNat = exact_

theorem AccumulatedNotional.Represents.of_saturated {total : AccumulatedNotional} {exact_ : Nat}
    (saturated : total.saturated = true) (large : 2 ^ 64 * 10 ^ 6 ≤ exact_) : total.Represents exact_ := by
  constructor
  · intro _
    exact large
  · intro unsaturated
    rw [saturated] at unsaturated
    cases unsaturated

theorem AccumulatedNotional.Represents.of_exact {total : AccumulatedNotional} {exact_ : Nat}
    (unsaturated : total.saturated = false)
    (whole : total.units.toNat * 10 ^ 6 + total.fractionalUnits.toNat = exact_)
    (proper : total.fractionalUnits.toNat < 10 ^ 6) : total.Represents exact_ := by
  constructor
  · intro saturated
    rw [unsaturated] at saturated
    cases saturated
  · intro _
    exact ⟨whole, proper⟩

theorem AccumulatedNotional.Represents.covers_iff {total : AccumulatedNotional} {exact_ : Nat}
    (represents : total.Represents exact_) (target : UInt64) :
    total.covers target = true ↔ target.toNat ≤ exact_ / 10 ^ 6 := by
  have bounded := target.toNat_lt
  rw [AccumulatedNotional.covers, Bool.or_eq_true, decide_eq_true_eq, UInt64.le_iff_toNat_le]
  cases saturated : total.saturated with
  | true =>
      have large := represents.saturated saturated
      constructor
      · intro _
        omega
      · intro _
        exact .inl rfl
  | false =>
      obtain ⟨whole, fraction⟩ := represents.exact saturated
      rw [← whole]
      constructor
      · rintro (impossible | covered)
        · cases impossible
        · omega
      · intro covered
        right
        omega

theorem AccumulatedSize.Represents.covers_iff {total : AccumulatedSize} {exact_ : Nat}
    (represents : total.Represents exact_) (target : UInt64) :
    total.covers target = true ↔ target.toNat ≤ exact_ := by
  have bounded := target.toNat_lt
  rw [AccumulatedSize.covers, Bool.or_eq_true, decide_eq_true_eq, UInt64.le_iff_toNat_le]
  cases saturated : total.saturated with
  | true =>
      have large := represents.saturated saturated
      constructor
      · intro _
        omega
      · intro _
        exact .inl rfl
  | false =>
      rw [represents.exact saturated]
      constructor
      · rintro (impossible | covered)
        · cases impossible
        · exact covered
      · intro covered
        exact .inr covered

/-! ## One level -/

theorem toNat_uint64Max_sub (used : UInt64) : (uint64Max - used).toNat = 2 ^ 64 - 1 - used.toNat := by
  rw [toNat_sub_fits uint64Max used, toNat_uint64Max]
  have := used.toNat_lt
  rw [toNat_uint64Max]
  omega

/-- Adding a contribution carries its fraction, and saturates where the exact total
leaves 64 bits. -/
theorem AccumulatedNotional.Represents.contribute {total : AccumulatedNotional} {exact_ : Nat}
    (represents : total.Represents exact_) (unsaturated : total.saturated = false) {units fraction : UInt64}
    (proper : fraction.toNat < 10 ^ 6) :
    ∃ next, addContribution wrapFree total units fraction = some next ∧
      next.Represents (exact_ + (units.toNat * 10 ^ 6 + fraction.toNat)) := by
  obtain ⟨whole, bounded⟩ := represents.exact unsaturated
  have scale : depthScale.toNat = 10 ^ 6 := rfl
  have unitsBounded := total.units.toNat_lt
  unfold addContribution
  rw [wrapFree_subtract (by rw [toNat_uint64Max]; omega), some_bind]
  have exceeds : uint64Max - total.units < units ↔ 2 ^ 64 ≤ total.units.toNat + units.toNat := by
    rw [UInt64.lt_iff_toNat_lt, toNat_uint64Max_sub]
    omega
  by_cases past : 2 ^ 64 ≤ total.units.toNat + units.toNat
  · use { total with saturated := true }
    rw [if_pos (exceeds.mpr past)]
    constructor
    · rfl
    · apply AccumulatedNotional.Represents.of_saturated rfl
      omega
  · rw [if_neg fun above => past (exceeds.mp above), wrapFree_add (by omega), some_bind,
      wrapFree_add (by omega), some_bind]
    have summed := toNat_add_fits total.units units (by omega)
    have fractions := toNat_add_fits total.fractionalUnits fraction (by omega)
    generalize total.units + units = sum at summed
    generalize total.fractionalUnits + fraction = fractionalSum at fractions
    by_cases carries : fractionalSum < depthScale
    · use { total with units := sum, fractionalUnits := fractionalSum }
      rw [if_pos carries]
      rw [UInt64.lt_iff_toNat_lt, scale] at carries
      constructor
      · rfl
      · apply AccumulatedNotional.Represents.of_exact
        · exact unsaturated
        · rw [summed, fractions, ← whole]
          ring
        · exact carries
    · rw [if_neg carries]
      rw [UInt64.lt_iff_toNat_lt, scale] at carries
      rw [wrapFree_subtract (by rw [scale]; omega), some_bind]
      have carried := toNat_sub_fits fractionalSum depthScale (by rw [scale]; omega)
      rw [scale] at carried
      generalize fractionalSum - depthScale = remaining at carried
      by_cases full : sum = uint64Max
      · use ⟨sum, remaining, true⟩
        rw [if_pos full]
        rw [full, toNat_uint64Max] at summed
        constructor
        · rfl
        · apply AccumulatedNotional.Represents.of_saturated rfl
          omega
      · have different : sum.toNat ≠ uint64Max.toNat := fun same => full (UInt64.toNat_inj.mp same)
        have one : (1 : UInt64).toNat = 1 := rfl
        have room : sum.toNat + (1 : UInt64).toNat < 2 ^ 64 := by
          rw [toNat_uint64Max] at different
          omega
        have incremented := toNat_add_fits sum 1 room
        rw [if_neg full, wrapFree_add room, some_bind]
        generalize sum + 1 = next at incremented
        use { total with units := next, fractionalUnits := remaining }
        constructor
        · rfl
        · have properly : remaining.toNat < 10 ^ 6 := by omega
          have borrowed : remaining.toNat + 10 ^ 6 = total.fractionalUnits.toNat + fraction.toNat := by omega
          apply AccumulatedNotional.Represents.of_exact
          · exact unsaturated
          · rw [incremented, summed, one, ← whole]
            linarith
          · exact properly

/-- One level adds its exact notional, and no word wraps on the way. -/
theorem AccumulatedNotional.Represents.add {total : AccumulatedNotional} {exact_ : Nat}
    (represents : total.Represents exact_) (sizeUnits : UInt64) {priceUnits : UInt64} (positive : 0 < priceUnits.toNat)
    (below : priceUnits.toNat < 10 ^ 6) :
    ∃ next, addNotional wrapFree total sizeUnits priceUnits = some next ∧
      next.Represents (exact_ + sizeUnits.toNat * priceUnits.toNat) := by
  unfold addNotional
  cases saturated : total.saturated with
  | true =>
      use total
      rw [if_pos rfl]
      constructor
      · rfl
      · exact .of_saturated saturated ((represents.saturated saturated).trans (Nat.le_add_right ..))
  | false =>
      have scale : depthScale.toNat = 10 ^ 6 := rfl
      -- The fraction of the size costs less than a whole unit of the price.
      have fractionFits : (sizeUnits % depthScale).toNat * priceUnits.toNat < 10 ^ 12 := by
        have proper : (sizeUnits % depthScale).toNat < 10 ^ 6 := by
          rw [UInt64.toNat_mod, scale]
          exact Nat.mod_lt _ (by decide)
        calc (sizeUnits % depthScale).toNat * priceUnits.toNat ≤ 10 ^ 6 * priceUnits.toNat :=
              Nat.mul_le_mul_right _ proper.le
          _ < 10 ^ 12 := by omega
      have split : sizeUnits.toNat * priceUnits.toNat =
          (sizeUnits / depthScale).toNat * priceUnits.toNat * 10 ^ 6 +
            (sizeUnits % depthScale).toNat * priceUnits.toNat := by
        rw [UInt64.toNat_div, UInt64.toNat_mod, scale]
        conv_lhs => rw [← Nat.div_add_mod sizeUnits.toNat (10 ^ 6)]
        ring
      rw [if_neg (by decide)]
      dsimp only
      rw [wrapFree_multiply (by omega), some_bind]
      have product := toNat_mul_fits (sizeUnits % depthScale) priceUnits (by omega)
      generalize sizeUnits % depthScale * priceUnits = fractionalProduct at product
      rw [← product] at fractionFits split
      have fractionSplit : fractionalProduct.toNat =
          (fractionalProduct / depthScale).toNat * 10 ^ 6 + (fractionalProduct % depthScale).toNat := by
        rw [UInt64.toNat_div, UInt64.toNat_mod, scale, Nat.div_add_mod']
      have proper : (fractionalProduct % depthScale).toNat < 10 ^ 6 := by
        rw [UInt64.toNat_mod, scale]
        exact Nat.mod_lt _ (by decide)
      generalize fractionalProduct % depthScale = contributionFraction at fractionSplit proper
      generalize fractionalProduct / depthScale = fractionalWhole at fractionSplit
      generalize sizeUnits / depthScale = sizeWhole at split
      have wholeBounded := fractionalWhole.toNat_lt
      rw [wrapFree_subtract (by rw [toNat_uint64Max]; omega), some_bind]
      have exceeds : (priceUnits ≠ 0 ∧ (uint64Max - fractionalWhole) / priceUnits < sizeWhole) ↔
          2 ^ 64 ≤ sizeWhole.toNat * priceUnits.toNat + fractionalWhole.toNat := by
        rw [UInt64.lt_iff_toNat_lt, UInt64.toNat_div, toNat_uint64Max_sub, Nat.div_lt_iff_lt_mul positive]
        constructor
        · rintro ⟨_, past⟩
          omega
        · intro past
          constructor
          · rintro rfl
            cases positive
          · omega
      by_cases past : 2 ^ 64 ≤ sizeWhole.toNat * priceUnits.toNat + fractionalWhole.toNat
      · use { total with saturated := true }
        rw [if_pos (exceeds.mpr past)]
        constructor
        · rfl
        · apply AccumulatedNotional.Represents.of_saturated rfl
          omega
      · have wholeProduct := toNat_mul_fits sizeWhole priceUnits (by omega)
        have contributed := toNat_add_fits (sizeWhole * priceUnits) fractionalWhole
          (by rw [wholeProduct]; omega)
        rw [if_neg fun above => past (exceeds.mp above), wrapFree_multiply (by omega), some_bind,
          wrapFree_add (by rw [wholeProduct]; omega), some_bind]
        have exactly : sizeUnits.toNat * priceUnits.toNat =
            (sizeWhole * priceUnits + fractionalWhole).toNat * 10 ^ 6 + contributionFraction.toNat := by
          rw [contributed, wholeProduct, split, fractionSplit]
          ring
        rw [exactly]
        exact represents.contribute saturated proper

theorem AccumulatedSize.Represents.add {total : AccumulatedSize} {exact_ : Nat}
    (represents : total.Represents exact_) (sizeUnits : UInt64) :
    ∃ next, addSize wrapFree total sizeUnits = some next ∧ next.Represents (exact_ + sizeUnits.toNat) := by
  unfold addSize
  cases saturated : total.saturated with
  | true =>
      use total
      rw [if_pos rfl]
      constructor
      · rfl
      · constructor
        · intro _
          exact (represents.saturated saturated).trans (Nat.le_add_right ..)
        · intro unsaturated
          rw [saturated] at unsaturated
          cases unsaturated
  | false =>
      have whole := represents.exact saturated
      have unitsBounded := total.units.toNat_lt
      rw [if_neg (by decide), wrapFree_subtract (by rw [toNat_uint64Max]; omega), some_bind]
      have exceeds : uint64Max - total.units < sizeUnits ↔ 2 ^ 64 ≤ exact_ + sizeUnits.toNat := by
        rw [UInt64.lt_iff_toNat_lt, toNat_uint64Max_sub]
        omega
      by_cases past : 2 ^ 64 ≤ exact_ + sizeUnits.toNat
      · use { total with saturated := true }
        rw [if_pos (exceeds.mpr past)]
        constructor
        · rfl
        · constructor
          · intro _
            exact past
          · intro unsaturated
            cases unsaturated
      · have fits : total.units.toNat + sizeUnits.toNat < 2 ^ 64 := by omega
        use { total with units := total.units + sizeUnits }
        rw [if_neg fun above => past (exceeds.mp above), wrapFree_add fits, some_bind, saturated]
        constructor
        · rfl
        · constructor
          · intro impossible
            cases impossible
          · intro _
            rw [toNat_add_fits _ _ fits, whole]

/-! ## Whole sequences -/

/-- The exact notional of levels, in millionths of a unit. -/
def exactNotional (levels : List (UInt64 × UInt64)) : Nat :=
  (levels.map fun level => level.1.toNat * level.2.toNat).sum

def exactSize (sizes : List UInt64) : Nat := (sizes.map UInt64.toNat).sum

theorem accumulateNotional_agrees (levels : List (UInt64 × UInt64)) (total : AccumulatedNotional) :
    Agrees (levels.foldlM (fun total level => addNotional wrapFree total level.1 level.2) total)
      (levels.foldlM (fun total level => addNotional wrapping total level.1 level.2) total) := by
  induction levels generalizing total with
  | nil => exact .pure _
  | cons level levels ih =>
      rw [List.foldlM_cons, List.foldlM_cons]
      exact .bind (addNotional_agrees _ _ _) ih

theorem accumulateSize_agrees (sizes : List UInt64) (total : AccumulatedSize) :
    Agrees (sizes.foldlM (addSize wrapFree) total) (sizes.foldlM (addSize wrapping) total) := by
  induction sizes generalizing total with
  | nil => exact .pure _
  | cons size sizes ih =>
      rw [List.foldlM_cons, List.foldlM_cons]
      exact .bind (addSize_agrees _ _) ih

theorem AccumulatedNotional.Represents.accumulate {levels : List (UInt64 × UInt64)}
    (priced : ∀ level ∈ levels, 0 < level.2.toNat ∧ level.2.toNat < 10 ^ 6) {total : AccumulatedNotional}
    {exact_ : Nat} (represents : total.Represents exact_) :
    ∃ next, levels.foldlM (fun total level => addNotional wrapFree total level.1 level.2) total = some next ∧
      next.Represents (exact_ + exactNotional levels) := by
  induction levels generalizing total exact_ with
  | nil => exact ⟨total, rfl, represents⟩
  | cons level levels ih =>
      have price := priced level List.mem_cons_self
      obtain ⟨middle, first, represents⟩ := represents.add level.1 price.1 price.2
      obtain ⟨last, rest, represents⟩ :=
        ih (fun other member => priced other (List.mem_cons_of_mem _ member)) represents
      use last
      constructor
      · rw [List.foldlM_cons, first]
        exact rest
      · rw [add_assoc] at represents
        exact represents

theorem AccumulatedSize.Represents.accumulate {total : AccumulatedSize} {exact_ : Nat}
    (represents : total.Represents exact_) (sizes : List UInt64) :
    ∃ next, sizes.foldlM (addSize wrapFree) total = some next ∧ next.Represents (exact_ + exactSize sizes) := by
  induction sizes generalizing total exact_ with
  | nil => exact ⟨total, rfl, represents⟩
  | cons size sizes ih =>
      obtain ⟨middle, first, represents⟩ := represents.add size
      obtain ⟨last, rest, represents⟩ := ih represents
      use last
      constructor
      · rw [List.foldlM_cons, first]
        exact rest
      · rw [add_assoc] at represents
        exact represents

/-- Accumulated depth compares with every target as the unbounded sums do, and no
word wraps while it is accumulated. -/
theorem accumulated_depth_exact (levels : List (UInt64 × UInt64))
    (priced : ∀ level ∈ levels, 0 < level.2.toNat ∧ level.2.toNat < 10 ^ 6) :
    let notional := Id.run (accumulateNotional wrapping levels)
    let size := Id.run (accumulateSize wrapping (levels.map Prod.fst))
    accumulateNotional wrapFree levels = some notional ∧
    accumulateSize wrapFree (levels.map Prod.fst) = some size ∧
    (∀ target, notional.covers target = true ↔ target.toNat ≤ exactNotional levels / 10 ^ 6) ∧
    (∀ target, size.covers target = true ↔ target.toNat ≤ exactSize (levels.map Prod.fst)) ∧
    (notional.saturated = false → notional.units.toNat = exactNotional levels / 10 ^ 6 ∧
      notional.fractionalUnits.toNat = exactNotional levels % 10 ^ 6 ∧
      notional.fractionalUnits.toNat < 10 ^ 6) ∧
    (size.saturated = false → size.units.toNat = exactSize (levels.map Prod.fst)) := by
  intro notional size
  have empty : AccumulatedNotional.Represents {} 0 := .of_exact rfl rfl (by decide)
  have emptySize : AccumulatedSize.Represents {} 0 := by
    constructor
    · intro impossible
      cases impossible
    · intro _
      rfl
  obtain ⟨total, ran, represents⟩ := empty.accumulate priced
  obtain ⟨sizeTotal, sizeRan, sizeRepresents⟩ := emptySize.accumulate (levels.map Prod.fst)
  have same : notional = total := accumulateNotional_agrees levels {} total ran
  have sameSize : size = sizeTotal := accumulateSize_agrees (levels.map Prod.fst) {} sizeTotal sizeRan
  rw [zero_add] at represents sizeRepresents
  rw [same, sameSize]
  constructor
  · exact ran
  constructor
  · exact sizeRan
  constructor
  · exact represents.covers_iff
  constructor
  · exact sizeRepresents.covers_iff
  constructor
  · intro unsaturated
    obtain ⟨whole, proper⟩ := represents.exact unsaturated
    rw [← whole]
    omega
  · exact sizeRepresents.exact

theorem accumulated_depth_exact_full :
    accumulateNotional wrapFree [(uint64Max, 999999), (18446744073710, 999999)] =
      some (Id.run (accumulateNotional wrapping [(uint64Max, 999999), (18446744073710, 999999)])) :=
  (accumulated_depth_exact [(uint64Max, 999999), (18446744073710, 999999)]
    (List.forall_mem_cons.mpr ⟨by decide, List.forall_mem_singleton.mpr (by decide)⟩)).1

end Polymarket.Orders
