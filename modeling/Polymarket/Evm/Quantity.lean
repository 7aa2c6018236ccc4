import Mathlib.Order.Defs.LinearOrder
import Mathlib.Tactic.Common
import Polymarket.Json

/-! EVM quantities and block ranges: the text form of a `uint64_t` and the
split of an interval of blocks into batches. -/

set_option autoImplicit false

namespace Polymarket

instance linearOrderUInt64 : LinearOrder UInt64 where
  le_refl := UInt64.le_refl
  le_trans _ _ _ := UInt64.le_trans
  le_antisymm _ _ := UInt64.le_antisymm
  le_total := UInt64.le_total
  lt_iff_le_not_ge left right := by grind
  toDecidableLE := inferInstance
  toDecidableEq := inferInstance
  toDecidableLT := inferInstance
  min_def _ _ := rfl
  max_def _ _ := rfl
  compare_eq_compareOfLessAndEq _ _ := rfl

end Polymarket

namespace Polymarket.Evm

/-! ## Quantities -/

/-- A digit of `std::from_chars` in the given base. -/
def digitValue (base : Nat) (char : Char) : Option Nat :=
  let value :=
    if '0' ≤ char ∧ char ≤ '9' then char.toNat - '0'.toNat
    else if 'a' ≤ char ∧ char ≤ 'z' then char.toNat - 'a'.toNat + 10
    else if 'A' ≤ char ∧ char ≤ 'Z' then char.toNat - 'A'.toNat + 10
    else base
  if value < base then some value else none

/-- The value of the longest run of digits, and what follows it. -/
def fromChars (base : Nat) (value : Nat) : List Char → Nat × List Char
  | [] => (value, [])
  | char :: rest =>
      match digitValue base char with
      | some digit => fromChars base (value * base + digit) rest
      | none => (value, char :: rest)

/-- `std::from_chars` into a `uint64_t`, with the client's reading of its
result: an overflowing run of digits is reported before trailing text is. -/
def uint64FromChars (base : Nat) (digits : List Char) : Except CppError UInt64 :=
  match digits with
  | [] => .error (.invalidArgument "EVM quantity has no digits")
  | first :: _ =>
      match digitValue base first with
      | none => .error (.invalidArgument "invalid EVM quantity")
      | some _ =>
          let (value, rest) := fromChars base 0 digits
          if UInt64.size ≤ value then .error (.outOfRange "EVM quantity exceeds uint64")
          else if rest ≠ [] then .error (.invalidArgument "invalid EVM quantity")
          else .ok (UInt64.ofNat value)

def evmQuantityToUint64 (quantity : String) : Except CppError UInt64 :=
  match quantity.toList with
  | [] => .error (.invalidArgument "empty EVM quantity")
  | '0' :: 'x' :: digits => uint64FromChars 16 digits
  | '0' :: 'X' :: digits => uint64FromChars 16 digits
  | digits => uint64FromChars 10 digits

example : evmQuantityToUint64 "0x10" = .ok 16 := by decide

example : evmQuantityToUint64 "42" = .ok 42 := by decide

/-! ## Block ranges -/

structure EvmBlockRange where
  fromBlock : UInt64
  toBlock : UInt64
deriving DecidableEq, Repr

/-- The block lies in the range. -/
def EvmBlockRange.Contains (range : EvmBlockRange) (block : UInt64) : Prop :=
  range.fromBlock ≤ block ∧ block ≤ range.toBlock

instance (range : EvmBlockRange) (block : UInt64) : Decidable (range.Contains block) :=
  inferInstanceAs (Decidable (_ ∧ _))

/-- The loop of `evm_make_block_ranges`. -/
def blockRanges : Nat → UInt64 → UInt64 → UInt64 → List EvmBlockRange
  | 0, _, _, _ => []
  | fuel + 1, fromBlock, toBlock, batchSize =>
      if fromBlock ≤ toBlock then
        let last := fromBlock + min (batchSize - 1) (toBlock - fromBlock)
        ⟨fromBlock, last⟩ ::
          if last = toBlock then [] else blockRanges fuel (last + 1) toBlock batchSize
      else []

def evmMakeBlockRanges (fromBlock toBlock batchSize : UInt64) :
    Except CppError (List EvmBlockRange) :=
  if batchSize = 0 then .error (.invalidArgument "batch_size must be positive")
  else if fromBlock > toBlock then .ok []
  else .ok (blockRanges ((toBlock - fromBlock).toNat + 1) fromBlock toBlock batchSize)

/-- Non-empty adjacent ranges that start at one block and end at another. -/
inductive Adjacent : UInt64 → UInt64 → List EvmBlockRange → Prop where
  | last {fromBlock toBlock : UInt64} : fromBlock ≤ toBlock →
      Adjacent fromBlock toBlock [⟨fromBlock, toBlock⟩]
  | next {fromBlock last toBlock : UInt64} {rest : List EvmBlockRange} :
      fromBlock ≤ last → last < toBlock → Adjacent (last + 1) toBlock rest →
      Adjacent fromBlock toBlock (⟨fromBlock, last⟩ :: rest)

private theorem batch_last {fromBlock toBlock : UInt64} (batchSize : UInt64) (ordered : fromBlock ≤ toBlock) :
    fromBlock ≤ fromBlock + min (batchSize - 1) (toBlock - fromBlock) ∧
      fromBlock + min (batchSize - 1) (toBlock - fromBlock) ≤ toBlock := by
  have bound : min (batchSize - 1) (toBlock - fromBlock) ≤ toBlock - fromBlock := min_le_right _ _
  generalize min (batchSize - 1) (toBlock - fromBlock) = step at bound
  simp only [UInt64.le_iff_toNat_le, UInt64.toNat_add, UInt64.toNat_sub_of_le _ _ ordered] at *
  have small := toBlock.toNat_lt
  omega

private theorem blockRanges_adjacent {fuel : Nat} {fromBlock toBlock : UInt64}
    (batchSize : UInt64) (ordered : fromBlock ≤ toBlock) (enough : (toBlock - fromBlock).toNat < fuel) :
    Adjacent fromBlock toBlock (blockRanges fuel fromBlock toBlock batchSize) := by
  induction fuel generalizing fromBlock with
  | zero => omega
  | succ fuel ih =>
      obtain ⟨first, last⟩ := batch_last batchSize ordered
      simp only [blockRanges, ordered, ↓reduceIte]
      generalize fromBlock + min (batchSize - 1) (toBlock - fromBlock) = ending at *
      split
      · next same =>
        subst same
        exact .last first
      · next different =>
        have strict : ending < toBlock := lt_of_le_of_ne last different
        refine .next first strict (ih ?_ ?_)
        · grind
        · have next : ending + 1 ≤ toBlock := by grind
          have successor : (ending + 1).toNat = ending.toNat + 1 := by
            have small := toBlock.toNat_lt
            rw [UInt64.lt_iff_toNat_lt] at strict
            simp only [UInt64.toNat_add, UInt64.toNat_one]
            omega
          rw [UInt64.le_iff_toNat_le] at first
          rw [UInt64.lt_iff_toNat_lt] at strict
          rw [UInt64.toNat_sub_of_le _ _ next, successor]
          rw [UInt64.toNat_sub_of_le _ _ ordered] at enough
          omega

/-- A positive batch size splits every interval into adjacent ranges. -/
theorem evmMakeBlockRanges_adjacent {fromBlock toBlock batchSize : UInt64}
    (positive : batchSize ≠ 0) (ordered : fromBlock ≤ toBlock) :
    ∃ ranges, evmMakeBlockRanges fromBlock toBlock batchSize = .ok ranges ∧
      Adjacent fromBlock toBlock ranges := by
  refine ⟨_, ?_, blockRanges_adjacent batchSize ordered (Nat.lt_succ_self _)⟩
  simp [evmMakeBlockRanges, positive, not_lt.mpr ordered]

theorem evmMakeBlockRanges_empty {fromBlock toBlock batchSize : UInt64}
    (positive : batchSize ≠ 0) (reversed : toBlock < fromBlock) :
    evmMakeBlockRanges fromBlock toBlock batchSize = .ok [] := by
  simp [evmMakeBlockRanges, positive, reversed]

theorem Adjacent.bounds {fromBlock toBlock : UInt64} {ranges : List EvmBlockRange}
    (adjacent : Adjacent fromBlock toBlock ranges) {range : EvmBlockRange} (member : range ∈ ranges) :
    fromBlock ≤ range.fromBlock ∧ range.fromBlock ≤ range.toBlock ∧ range.toBlock ≤ toBlock := by
  induction adjacent with
  | last ordered =>
      rw [List.mem_singleton] at member
      subst member
      exact ⟨le_refl _, ordered, le_refl _⟩
  | @next first last final rest ordered strict _ ih =>
      rcases List.mem_cons.mp member with rfl | member
      · exact ⟨le_refl _, ordered, strict.le⟩
      · obtain ⟨lower, inner, upper⟩ := ih member
        have successor : last ≤ last + 1 := by grind
        exact ⟨ordered.trans (successor.trans lower), inner, upper⟩

theorem Adjacent.ordered {fromBlock toBlock : UInt64} {ranges : List EvmBlockRange}
    (adjacent : Adjacent fromBlock toBlock ranges) : fromBlock ≤ toBlock := by
  cases adjacent with
  | last ordered => exact ordered
  | next ordered strict _ => exact ordered.trans strict.le

theorem Adjacent.covers {fromBlock toBlock block : UInt64} {ranges : List EvmBlockRange}
    (adjacent : Adjacent fromBlock toBlock ranges) (lower : fromBlock ≤ block)
    (upper : block ≤ toBlock) : ∃ range ∈ ranges, range.Contains block := by
  induction adjacent with
  | last => exact ⟨_, List.mem_singleton_self _, lower, upper⟩
  | @next first last final rest ordered strict _ ih =>
      rcases le_or_gt block last with inside | beyond
      · exact ⟨_, List.mem_cons_self, lower, inside⟩
      · obtain ⟨range, member, contains⟩ := ih (by grind) upper
        exact ⟨range, List.mem_cons_of_mem _ member, contains⟩

/-- Earlier ranges lie below later ones. -/
theorem Adjacent.ascends {fromBlock toBlock : UInt64} {ranges earlier later : List EvmBlockRange}
    {range : EvmBlockRange} (adjacent : Adjacent fromBlock toBlock ranges)
    (split : ranges = earlier ++ range :: later) {other : EvmBlockRange} (member : other ∈ earlier) :
    other.toBlock < range.fromBlock := by
  induction adjacent generalizing earlier with
  | last ordered =>
      cases earlier with
      | nil => cases member
      | cons first rest => simp at split
  | @next first last final rest ordered strict following ih =>
      cases earlier with
      | nil => cases member
      | cons head tail =>
          rw [List.cons_append, List.cons.injEq] at split
          obtain ⟨rfl, same⟩ := split
          rcases List.mem_cons.mp member with rfl | member
          · have bounds := following.bounds (same ▸ List.mem_append_right tail List.mem_cons_self)
            have successor : last < last + 1 := by grind
            exact lt_of_lt_of_le successor bounds.1
          · exact ih same member

/-- The ranges of a non-empty result are adjacent. -/
theorem adjacent_of_evmMakeBlockRanges {fromBlock toBlock batchSize : UInt64}
    {ranges : List EvmBlockRange}
    (result : evmMakeBlockRanges fromBlock toBlock batchSize = .ok ranges) :
    ranges = [] ∨ Adjacent fromBlock toBlock ranges := by
  by_cases zero : batchSize = 0
  · simp [evmMakeBlockRanges, zero] at result
  · rcases le_or_gt fromBlock toBlock with ordered | reversed
    · obtain ⟨split, same, adjacent⟩ := evmMakeBlockRanges_adjacent zero ordered
      rw [same, Except.ok.injEq] at result
      exact .inr (result ▸ adjacent)
    · rw [evmMakeBlockRanges_empty zero reversed, Except.ok.injEq] at result
      exact .inl result.symm

/-- Whatever the batch size, no range leaves the interval. -/
theorem evmMakeBlockRanges_bounds {fromBlock toBlock batchSize : UInt64}
    {ranges : List EvmBlockRange}
    (result : evmMakeBlockRanges fromBlock toBlock batchSize = .ok ranges) {range : EvmBlockRange}
    (member : range ∈ ranges) :
    fromBlock ≤ range.fromBlock ∧ range.fromBlock ≤ range.toBlock ∧ range.toBlock ≤ toBlock := by
  rcases adjacent_of_evmMakeBlockRanges result with rfl | adjacent
  · cases member
  · exact adjacent.bounds member

end Polymarket.Evm
