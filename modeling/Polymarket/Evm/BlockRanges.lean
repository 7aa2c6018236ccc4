import Mathlib.Data.List.Chain
import Polymarket.Evm.Quantity
import Polymarket.Evm.Words

/-! Batches partition an interval of blocks. The loop runs once more on words where
wrapping is a failure, with as many rounds as there are batches. -/

set_option autoImplicit false

namespace Polymarket.Evm

open Checked

/-! ## The loop on words that must not wrap -/

/-- The loop of `evm_make_block_ranges`; it fails when its rounds run out. -/
def WrapFree.blockRanges (toBlock batchSize : UInt64) : Nat → UInt64 → Checked (List EvmBlockRange)
  | 0, _ => ExceptT.lift none
  | rounds + 1, fromBlock =>
      if fromBlock ≤ toBlock then do
        let most ← subtract batchSize 1
        let behind ← subtract toBlock fromBlock
        let last ← add fromBlock (min most behind)
        if last = toBlock then pure [⟨fromBlock, last⟩]
        else do
          let next ← add last 1
          let rest ← WrapFree.blockRanges toBlock batchSize rounds next
          pure (⟨fromBlock, last⟩ :: rest)
      else pure []

def WrapFree.evmMakeBlockRanges (rounds : Nat) (fromBlock toBlock batchSize : UInt64) : Checked (List EvmBlockRange) :=
  if batchSize = 0 then throws "batch_size must be positive"
  else if fromBlock > toBlock then pure []
  else WrapFree.blockRanges toBlock batchSize rounds fromBlock

/-! ## Rounds -/

section Rounds

variable {fromBlock toBlock batchSize : UInt64}

theorem toNat_min (left right : UInt64) : (min left right).toNat = min left.toNat right.toNat := by
  rcases le_total left right with below | above
  · rw [min_eq_left below, min_eq_left (UInt64.le_iff_toNat_le.mp below)]
  · rw [min_eq_right above, min_eq_right (UInt64.le_iff_toNat_le.mp above)]

/-- The last block of a batch, without a word that wraps. -/
theorem toNat_batch_last (positive : 0 < batchSize.toNat) (ordered : fromBlock ≤ toBlock) :
    (min (batchSize - 1) (toBlock - fromBlock)).toNat = min (batchSize.toNat - 1) (toBlock.toNat - fromBlock.toNat) ∧
      (fromBlock + min (batchSize - 1) (toBlock - fromBlock)).toNat =
        fromBlock.toNat + min (batchSize.toNat - 1) (toBlock.toNat - fromBlock.toNat) := by
  have below := UInt64.le_iff_toNat_le.mp ordered
  have small := toBlock.toNat_lt
  have one : (1 : UInt64).toNat ≤ batchSize.toNat := positive
  have step : (min (batchSize - 1) (toBlock - fromBlock)).toNat =
      min (batchSize.toNat - 1) (toBlock.toNat - fromBlock.toNat) := by
    rw [toNat_min, UInt64.toNat_sub_of_le _ _ ordered, Orders.toNat_sub_fits _ _ one, UInt64.toNat_one]
  constructor
  · exact step
  · rw [Orders.toNat_add_fits _ _ (by omega), step]

/-- A round takes what the batch allows, and leaves one batch less for the rounds behind it. -/
theorem blockRanges_wrapFree {rounds fuel : Nat} (positive : 0 < batchSize.toNat) (ordered : fromBlock ≤ toBlock)
    (enough : (toBlock.toNat - fromBlock.toNat) / batchSize.toNat < rounds)
    (fuelled : toBlock.toNat - fromBlock.toNat < fuel) :
    WrapFree.blockRanges toBlock batchSize rounds fromBlock =
      outcome (.ok (blockRanges fuel fromBlock toBlock batchSize)) := by
  induction rounds generalizing fuel fromBlock with
  | zero => cases enough
  | succ rounds ih =>
      cases fuel with
      | zero => cases fuelled
      | succ fuel =>
          have below := UInt64.le_iff_toNat_le.mp ordered
          have small := toBlock.toNat_lt
          have one : (1 : UInt64).toNat ≤ batchSize.toNat := positive
          obtain ⟨step, last⟩ := toNat_batch_last positive ordered
          have fits : fromBlock.toNat + (min (batchSize - 1) (toBlock - fromBlock)).toNat < 2 ^ 64 := by omega
          simp only [WrapFree.blockRanges, blockRanges, ordered, ↓reduceIte, subtract_pure one, subtract_pure below,
            add_pure fits, pure_bind]
          generalize fromBlock + min (batchSize - 1) (toBlock - fromBlock) = ending at last
          by_cases same : ending = toBlock
          · simp only [same, ↓reduceIte]
            rfl
          · have before : ending.toNat < toBlock.toNat := by
              have different : ending.toNat ≠ toBlock.toNat := fun equal => same (UInt64.toNat_inj.mp equal)
              omega
            have next : (ending + 1).toNat = fromBlock.toNat + batchSize.toNat := by
              rw [Orders.toNat_add_fits _ _ (by rw [UInt64.toNat_one]; omega), UInt64.toNat_one]
              omega
            have fewer : (toBlock.toNat - fromBlock.toNat) / batchSize.toNat =
                (toBlock.toNat - (ending + 1).toNat) / batchSize.toNat + 1 := by
              rw [← Nat.add_div_right _ positive, next]
              congr 1
              omega
            have rest : WrapFree.blockRanges toBlock batchSize rounds (ending + 1) =
                outcome (.ok (blockRanges fuel (ending + 1) toBlock batchSize)) :=
              ih (UInt64.le_iff_toNat_le.mpr (by omega)) (by omega) (by omega)
            rw [if_neg same, if_neg same, add_pure (by rw [UInt64.toNat_one]; omega), pure_bind, rest, outcome_ok, pure_bind]
            rfl

theorem blockRanges_small {fuel : Nat} (positive : 0 < batchSize.toNat) {range : EvmBlockRange}
    (member : range ∈ blockRanges fuel fromBlock toBlock batchSize) :
    range.toBlock.toNat - range.fromBlock.toNat + 1 ≤ batchSize.toNat := by
  induction fuel generalizing fromBlock with
  | zero => cases member
  | succ fuel ih =>
      unfold blockRanges at member
      split at member
      · next ordered =>
        rcases List.mem_cons.mp member with rfl | later
        · have last := (toNat_batch_last positive ordered).2
          dsimp only
          omega
        · split at later
          · cases later
          · exact ih later
      · cases member

end Rounds

/-! ## Partitions -/

/-- Ranges that cut an interval into neighbouring pieces of a bounded size. -/
structure Partitions (fromBlock toBlock batchSize : UInt64) (ranges : List EvmBlockRange) : Prop where
  nonempty : ∀ range ∈ ranges, range.fromBlock ≤ range.toBlock
  small : ∀ range ∈ ranges, range.toBlock.toNat - range.fromBlock.toNat + 1 ≤ batchSize.toNat
  contiguous : ranges.IsChain fun range next => next.fromBlock.toNat = range.toBlock.toNat + 1
  first : ranges.head?.map EvmBlockRange.fromBlock = some fromBlock
  last : ranges.getLast?.map EvmBlockRange.toBlock = some toBlock
  once : ∀ block, ranges.countP (fun range => range.Contains block) = if fromBlock ≤ block ∧ block ≤ toBlock then 1 else 0

section Adjacent

variable {fromBlock toBlock : UInt64} {ranges : List EvmBlockRange}

theorem Adjacent.first (adjacent : Adjacent fromBlock toBlock ranges) :
    ranges.head?.map EvmBlockRange.fromBlock = some fromBlock := by
  cases adjacent with
  | last _ => rfl
  | next _ _ _ => rfl

theorem Adjacent.ending (adjacent : Adjacent fromBlock toBlock ranges) :
    ranges.getLast?.map EvmBlockRange.toBlock = some toBlock := by
  induction adjacent with
  | last _ => rfl
  | @next first last final rest _ _ following ih =>
      cases following with
      | last _ => exact ih
      | next _ _ _ => exact ih

theorem toNat_succ {last toBlock : UInt64} (strict : last < toBlock) : (last + 1).toNat = last.toNat + 1 := by
  have below := UInt64.lt_iff_toNat_lt.mp strict
  have small := toBlock.toNat_lt
  rw [Orders.toNat_add_fits _ _ (by rw [UInt64.toNat_one]; omega), UInt64.toNat_one]

theorem Adjacent.contiguous (adjacent : Adjacent fromBlock toBlock ranges) :
    ranges.IsChain fun range next => next.fromBlock.toNat = range.toBlock.toNat + 1 := by
  induction adjacent with
  | last _ => exact .singleton _
  | @next first last final rest _ strict following ih =>
      have successor := toNat_succ strict
      cases following with
      | last _ => exact .cons_cons successor ih
      | next _ _ _ => exact .cons_cons successor ih

/-- No block is in two ranges. -/
theorem Adjacent.once (adjacent : Adjacent fromBlock toBlock ranges) (block : UInt64) :
    ranges.countP (fun range => range.Contains block) = if fromBlock ≤ block ∧ block ≤ toBlock then 1 else 0 := by
  induction adjacent with
  | @last first final _ =>
      by_cases inside : first ≤ block ∧ block ≤ final
      · simp [EvmBlockRange.Contains, inside]
      · simp [EvmBlockRange.Contains, inside]
  | @next first last final rest ordered strict following ih =>
      have successor := toNat_succ strict
      have beyond : last + 1 ≤ block ↔ ¬block ≤ last := by
        rw [UInt64.le_iff_toNat_le, UInt64.le_iff_toNat_le, successor]
        omega
      rw [List.countP_cons, ih]
      simp only [beyond]
      by_cases inside : block ≤ last
      · have within : block ≤ final := inside.trans strict.le
        simp [EvmBlockRange.Contains, inside, within]
      · have above : first ≤ block := ordered.trans (not_le.mp inside).le
        simp [EvmBlockRange.Contains, inside, above]

end Adjacent

/-- With a positive batch size the loop ends after a round for each batch, no word wraps,
and the ranges partition the interval, if there is one. -/
theorem evmMakeBlockRanges_partitions (fromBlock toBlock batchSize : UInt64) (positive : 1 ≤ batchSize) :
    ∃ ranges, evmMakeBlockRanges fromBlock toBlock batchSize = .ok ranges ∧
      (∀ rounds, (toBlock.toNat - fromBlock.toNat) / batchSize.toNat < rounds →
        WrapFree.evmMakeBlockRanges rounds fromBlock toBlock batchSize = outcome (.ok ranges)) ∧
      (toBlock < fromBlock → ranges = []) ∧
      (fromBlock ≤ toBlock → Partitions fromBlock toBlock batchSize ranges) := by
  have above : 0 < batchSize.toNat := UInt64.le_iff_toNat_le.mp positive
  have nonzero : batchSize ≠ 0 := by
    intro zero
    rw [zero] at above
    cases above
  rcases le_or_gt fromBlock toBlock with ordered | reversed
  · have below := UInt64.le_iff_toNat_le.mp ordered
    obtain ⟨ranges, made, adjacent⟩ := evmMakeBlockRanges_adjacent nonzero ordered
    have loop : blockRanges ((toBlock - fromBlock).toNat + 1) fromBlock toBlock batchSize = ranges := by
      simpa [evmMakeBlockRanges, nonzero, not_lt.mpr ordered] using made
    refine ⟨ranges, made, ?_, fun reversed => absurd ordered (not_le.mpr reversed), fun _ => ?_⟩
    · intro rounds enough
      rw [WrapFree.evmMakeBlockRanges, if_neg nonzero, if_neg (not_lt.mpr ordered), ← loop]
      apply blockRanges_wrapFree above ordered enough
      rw [UInt64.toNat_sub_of_le _ _ ordered]
      exact Nat.lt_succ_self _
    · constructor
      · exact fun range member => (adjacent.bounds member).2.1
      · intro range member
        rw [← loop] at member
        exact blockRanges_small above member
      · exact adjacent.contiguous
      · exact adjacent.first
      · exact adjacent.ending
      · exact adjacent.once
  · refine ⟨[], evmMakeBlockRanges_empty nonzero reversed, ?_, fun _ => rfl, fun ordered => ?_⟩
    · intro rounds _
      rw [WrapFree.evmMakeBlockRanges, if_neg nonzero, if_pos reversed]
      rfl
    · exact absurd ordered (not_le.mpr reversed)

theorem evmMakeBlockRanges_partitions_full :
    ∃ ranges, evmMakeBlockRanges 0 uint64Max uint64Max = .ok ranges ∧ Partitions 0 uint64Max uint64Max ranges := by
  obtain ⟨ranges, made, -, -, partitions⟩ := evmMakeBlockRanges_partitions 0 uint64Max uint64Max (by decide)
  exact ⟨ranges, made, partitions (by decide)⟩

end Polymarket.Evm
