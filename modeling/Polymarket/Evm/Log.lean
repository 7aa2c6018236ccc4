import Mathlib.Data.Prod.Lex
import Polymarket.Evm.Quantity
import Polymarket.StableSort

/-! EVM logs as JSON-RPC delivers them, and what the indexer reads off them:
position, identity, block and delivery order. The numeric fields are texts, so
reading them may throw. -/

set_option autoImplicit false

namespace Polymarket.Evm

structure EvmLog where
  address : String := ""
  blockHash : String := ""
  blockNumber : String := ""
  transactionHash : String := ""
  transactionIndex : String := ""
  logIndex : String := ""
  data : String := ""
  topics : List String := []
  removed : Bool := false
deriving DecidableEq, Repr

structure EvmLogPosition where
  transactionIndex : UInt64
  logIndex : UInt64
  blockHash : String
deriving DecidableEq, Repr

/-- A numeric field that an RPC node may leave out. -/
def optionalQuantity (text : String) : Except CppError UInt64 :=
  if text = "" then .ok 0 else evmQuantityToUint64 text

def evmLogPosition (log : EvmLog) : Except CppError EvmLogPosition := do
  let transactionIndex ← optionalQuantity log.transactionIndex
  let logIndex ← optionalQuantity log.logIndex
  return ⟨transactionIndex, logIndex, log.blockHash⟩

def evmPositionAtOrBefore (left right : EvmLogPosition) : Bool :=
  decide (left.transactionIndex < right.transactionIndex) ||
    (decide (left.transactionIndex = right.transactionIndex) &&
      decide (left.logIndex ≤ right.logIndex))

def evmLogIdentity (log : EvmLog) : String :=
  if log.blockHash = "" ∨ log.transactionHash = "" ∨ log.logIndex = "" then ""
  else log.blockHash ++ ":" ++ log.transactionHash ++ ":" ++ log.logIndex

def evmLogBlock (log : EvmLog) : Except CppError UInt64 := optionalQuantity log.blockNumber

/-- The order of two logs once their blocks are known; positions are read only
inside one block. -/
def logBefore (block : EvmLog → Except CppError UInt64) (left right : EvmLog) :
    Except CppError Bool := do
  let leftBlock ← block left
  let rightBlock ← block right
  if leftBlock ≠ rightBlock then
    return decide (leftBlock < rightBlock)
  let leftPosition ← evmLogPosition left
  let rightPosition ← evmLogPosition right
  return !evmPositionAtOrBefore rightPosition leftPosition

def evmLogBefore : EvmLog → EvmLog → Except CppError Bool := logBefore evmLogBlock

/-- The comparator of `scan_ranges`, which requires a block number. -/
def scanBefore : EvmLog → EvmLog → Except CppError Bool :=
  logBefore fun log => evmQuantityToUint64 log.blockNumber

/-! ## Keys

Where the fields are well formed, both comparators compare blocks, then
positions. -/

/-- A log's place in the chain. -/
abbrev LogKey := UInt64 ×ₗ (UInt64 ×ₗ UInt64)

/-- The place inside a block. -/
def EvmLogPosition.key (position : EvmLogPosition) : UInt64 ×ₗ UInt64 :=
  toLex (position.transactionIndex, position.logIndex)

theorem evmPositionAtOrBefore_iff {left right : EvmLogPosition} :
    evmPositionAtOrBefore left right = true ↔ left.key ≤ right.key := by
  simp [evmPositionAtOrBefore, EvmLogPosition.key, Prod.Lex.toLex_le_toLex]

/-- The value of a field, zero where it does not parse. -/
def EvmLog.block (log : EvmLog) : UInt64 :=
  match evmLogBlock log with
  | .ok block => block
  | .error _ => 0

def EvmLog.position (log : EvmLog) : EvmLogPosition :=
  match evmLogPosition log with
  | .ok position => position
  | .error _ => ⟨0, 0, log.blockHash⟩

def EvmLog.key (log : EvmLog) : LogKey := toLex (log.block, log.position.key)

/-- The fields the indexer reads are well formed. -/
structure EvmLog.WellFormed (log : EvmLog) : Prop where
  block_eq : evmQuantityToUint64 log.blockNumber = .ok log.block
  position_eq : evmLogPosition log = .ok log.position

theorem evmLogBlock_of_quantity {log : EvmLog} {block : UInt64}
    (parsed : evmQuantityToUint64 log.blockNumber = .ok block) : evmLogBlock log = .ok block := by
  unfold evmLogBlock optionalQuantity
  split
  · next empty =>
    rw [empty] at parsed
    cases parsed
  · exact parsed

theorem EvmLog.block_of_ok {log : EvmLog} {block : UInt64} (parsed : evmLogBlock log = .ok block) :
    log.block = block := by
  simp only [EvmLog.block, parsed]

theorem EvmLog.position_blockHash (log : EvmLog) : log.position.blockHash = log.blockHash := by
  unfold EvmLog.position evmLogPosition
  cases optionalQuantity log.transactionIndex with
  | error error => rfl
  | ok transactionIndex =>
      cases optionalQuantity log.logIndex with
      | error error => rfl
      | ok logIndex => rfl

/-- What a comparison reads. -/
structure Comparable (block : EvmLog → Except CppError UInt64) (left right : EvmLog) : Prop where
  leftBlock : block left = .ok left.block
  rightBlock : block right = .ok right.block
  positions : left.block = right.block →
    evmLogPosition left = .ok left.position ∧ evmLogPosition right = .ok right.position

theorem Comparable.symm {block : EvmLog → Except CppError UInt64} {left right : EvmLog}
    (comparable : Comparable block left right) : Comparable block right left :=
  ⟨comparable.rightBlock, comparable.leftBlock, fun same => (comparable.positions same.symm).symm⟩

theorem evmLogBefore_comparable {left right : EvmLog} {answer : Bool}
    (compared : evmLogBefore left right = .ok answer) : Comparable evmLogBlock left right := by
  unfold evmLogBefore logBefore at compared
  cases leftParsed : evmLogBlock left with
  | error error => simp [leftParsed, bind, Except.bind] at compared
  | ok leftBlock =>
      cases rightParsed : evmLogBlock right with
      | error error => simp [leftParsed, rightParsed, bind, Except.bind] at compared
      | ok rightBlock =>
          have leftSame := EvmLog.block_of_ok leftParsed
          have rightSame := EvmLog.block_of_ok rightParsed
          refine ⟨leftSame ▸ leftParsed, rightSame ▸ rightParsed, fun same => ?_⟩
          simp only [leftParsed, rightParsed, bind, Except.bind, ← leftSame, ← rightSame, same,
            ne_eq, not_true_eq_false, ↓reduceIte] at compared
          cases leftPlaced : evmLogPosition left with
          | error error => simp [leftPlaced] at compared
          | ok leftPosition =>
              cases rightPlaced : evmLogPosition right with
              | error error => simp [leftPlaced, rightPlaced] at compared
              | ok rightPosition => simp [EvmLog.position, leftPlaced, rightPlaced]

private theorem logBefore_of_comparable {block : EvmLog → Except CppError UInt64} {left right : EvmLog}
    (comparable : Comparable block left right) :
    logBefore block left right = .ok (decide (left.key < right.key)) := by
  simp only [logBefore, comparable.leftBlock, comparable.rightBlock, bind, Except.bind, EvmLog.key,
    Prod.Lex.toLex_lt_toLex]
  by_cases same : left.block = right.block
  · obtain ⟨leftPosition, rightPosition⟩ := comparable.positions same
    have order : evmPositionAtOrBefore right.position left.position =
        decide (right.position.key ≤ left.position.key) := by
      rw [Bool.eq_iff_iff, evmPositionAtOrBefore_iff, decide_eq_true_iff]
    simp [same, leftPosition, rightPosition, order, pure, Except.pure, ← not_le]
  · simp [same, pure, Except.pure]

/-- On well-formed logs both comparators follow the key. -/
theorem scanBefore_of_wellFormed {left right : EvmLog} (leftFormed : left.WellFormed)
    (rightFormed : right.WellFormed) :
    scanBefore left right = .ok (decide (left.key < right.key)) :=
  logBefore_of_comparable
    ⟨leftFormed.block_eq, rightFormed.block_eq, fun _ => ⟨leftFormed.position_eq, rightFormed.position_eq⟩⟩

/-- A strict answer of `evm_log_before` follows the keys. -/
theorem evmLogBefore_lt {left right : EvmLog} (compared : evmLogBefore left right = .ok true) :
    left.key < right.key := by
  have answer := logBefore_of_comparable (evmLogBefore_comparable compared)
  rw [evmLogBefore, answer] at compared
  simpa using compared

/-- Not strictly after, by the code's own comparator. -/
def EvmLog.InOrder (left right : EvmLog) : Prop := evmLogBefore right left ≠ .ok true

theorem evmLogBefore_sorted {logs sorted : List EvmLog}
    (result : stableSort evmLogBefore logs = .ok sorted) : sorted.Pairwise EvmLog.InOrder := by
  have ascending : sorted.Pairwise fun left right => left.key ≤ right.key := by
    refine stableSort_ascending EvmLog.key (fun left leftMember right rightMember => ?_) result
    refine ⟨evmLogBefore_lt, fun strict => ?_⟩
    have different : left ≠ right := fun same => absurd (same ▸ strict) (lt_irrefl _)
    have comparable : Comparable evmLogBlock left right := by
      rcases compared_of_stableSort result leftMember rightMember different with
        ⟨answer, compared⟩ | ⟨answer, compared⟩
      · exact evmLogBefore_comparable compared
      · exact (evmLogBefore_comparable compared).symm
    rw [evmLogBefore, logBefore_of_comparable comparable, decide_eq_true strict]
  exact ascending.imp fun ordered compared => absurd (evmLogBefore_lt compared) (not_lt.mpr ordered)

end Polymarket.Evm
