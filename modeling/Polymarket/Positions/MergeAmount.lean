import Polymarket.Positions.Calls

/-! Amounts of merges: what a request resolves to, and the amount word of the call. -/

set_option autoImplicit false

namespace Polymarket.Positions

open Orders (Bytes fromHex)
open Evm.Abi (Word EvmAbiValue AbiShape HasShape Vectors parseUint256Word evmAbiEncode abiDecode)

/-! ## Words in order -/

theorem radixValue_word (word : Word) : radixValue 256 (word.val.map UInt8.toNat) = word.toNat := by
  rw [Word.toNat, Orders.byteValue_reverse]

theorem map_toNat_lt_iff {left right : Bytes} : left.map UInt8.toNat < right.map UInt8.toNat ↔ left < right := by
  induction left generalizing right with
  | nil =>
      cases right with
      | nil => exact iff_of_false (List.not_lt_nil _) (List.not_lt_nil _)
      | cons other others => exact iff_of_true (List.nil_lt_cons _ _) (List.nil_lt_cons _ _)
  | cons byte rest ih =>
      cases right with
      | nil => exact iff_of_false (List.not_lt_nil _) (List.not_lt_nil _)
      | cons other others =>
          rw [List.map_cons, List.map_cons, List.cons_lt_cons_iff, List.cons_lt_cons_iff, ih, UInt8.lt_iff_toNat_lt,
            UInt8.toNat_inj]

/-- Big-endian words compare as their numbers do. -/
theorem word_lt_iff {left right : Word} : left.val < right.val ↔ left.toNat < right.toNat := by
  have small (word : Word) : ∀ digit ∈ word.val.map UInt8.toNat, digit < 256 := by
    intro digit member
    obtain ⟨byte, -, rfl⟩ := List.mem_map.mp member
    exact byte.toNat_lt
  have width : (left.val.map UInt8.toNat).length = (right.val.map UInt8.toNat).length := by
    rw [List.length_map, List.length_map]
    exact left.property.trans right.property.symm
  rw [← map_toNat_lt_iff, ← radixValue_lt_iff (by decide) width (small left) (small right), radixValue_word,
    radixValue_word]

theorem isZeroWord_iff {word : Word} : isZeroWord word = true ↔ word.toNat = 0 := by
  constructor
  · intro zero
    have bytes : word.val = List.replicate 32 0 := by
      apply List.eq_replicate_iff.mpr
      exact ⟨word.property, fun byte member => eq_of_beq (List.all_eq_true.mp zero byte member)⟩
    rw [show word = Evm.Abi.zeroWord from Subtype.ext bytes]
    exact Evm.Abi.Word.toNat_zero
  · intro zero
    rw [Evm.Abi.Word.toNat_injective (zero.trans Evm.Abi.Word.toNat_zero.symm)]
    rfl

/-! ## Resolved amounts -/

/-- The integer of the word that a text parses to. -/
def amountOf (text : String) : Option Nat :=
  match parseUint256Word text with
  | .ok word => some word.toNat
  | .error _ => none

theorem amountOf_eq_some {text : String} {amount : Nat} :
    amountOf text = some amount ↔ ∃ word, parseUint256Word text = .ok word ∧ word.toNat = amount := by
  unfold amountOf
  cases parseUint256Word text with
  | ok word =>
      constructor
      · exact fun same => ⟨word, rfl, Option.some.inj same⟩
      · rintro ⟨_, ⟨⟩, rfl⟩
        rfl
  | error error => exact ⟨nofun, nofun⟩

theorem parseUint256Amount_ok {value label : String} {word : Word} :
    parseUint256Amount value label = .ok word ↔ parseUint256Word value = .ok word := by
  unfold parseUint256Amount
  split
  · next source => rw [source]
  · next source =>
    rw [source]
    exact ⟨nofun, nofun⟩
  · next source => rw [source]

theorem parseUint256Amount_throws {value label : String} {error : CppError}
    (failed : parseUint256Amount value label = .error error) : ∃ what, error = .invalidArgument what := by
  unfold parseUint256Amount at failed
  split at failed
  · cases failed
  · cases failed
    exact ⟨_, rfl⟩
  · next source =>
    cases failed
    exact Evm.Abi.parseUint256Word_throws source

/-- Either a word of the text or an `invalid_argument`. -/
theorem parseUint256Amount_cases (value label : String) :
    (∃ word, parseUint256Amount value label = .ok word ∧ amountOf value = some word.toNat) ∨
      ∃ what, parseUint256Amount value label = .error (.invalidArgument what) ∧ amountOf value = none := by
  cases parsed : parseUint256Amount value label with
  | ok word => exact .inl ⟨word, rfl, amountOf_eq_some.mpr ⟨word, parseUint256Amount_ok.mp parsed, rfl⟩⟩
  | error error =>
      obtain ⟨what, rfl⟩ := parseUint256Amount_throws parsed
      refine .inr ⟨what, rfl, ?_⟩
      cases found : amountOf value with
      | none => rfl
      | some amount =>
          obtain ⟨word, read, -⟩ := amountOf_eq_some.mp found
          rw [(@parseUint256Amount_ok value label word).mpr read] at parsed
          cases parsed

/-- Why a request is refused. -/
inductive Refused (balances : String × String) (requested : String) : Prop where
  | yes : amountOf balances.1 = none → Refused balances requested
  | no : amountOf balances.2 = none → Refused balances requested
  | empty {yes no} : amountOf balances.1 = some yes → amountOf balances.2 = some no → min yes no = 0 →
      Refused balances requested
  | malformed : requested ≠ "max" → amountOf requested = none → Refused balances requested
  | zero : requested ≠ "max" → amountOf requested = some 0 → Refused balances requested
  | exceeds {yes no wanted} : amountOf balances.1 = some yes → amountOf balances.2 = some no → requested ≠ "max" →
      amountOf requested = some wanted → min yes no < wanted → Refused balances requested

/-- The amount a request resolves to can be merged. -/
structure Mergeable (balances : String × String) (requested amount : String) (yes no merged : Nat) : Prop where
  yesBalance : amountOf balances.1 = some yes
  noBalance : amountOf balances.2 = some no
  amount : amountOf amount = some merged
  positive : 0 < merged
  atMost : merged ≤ min yes no
  all : requested = "max" → merged = min yes no
  asked : requested ≠ "max" → amountOf requested = some merged

/-- The smaller balance parses to the smaller word. -/
theorem least_balance {balances : String × String} {yes no : Word} {label : String}
    (yesRead : parseUint256Amount balances.1 label = .ok yes) (noRead : parseUint256Amount balances.2 label = .ok no) :
    ∃ least : Word, parseUint256Word (if yes.val < no.val then balances.1 else balances.2) = .ok least ∧
      least.toNat = min yes.toNat no.toNat := by
  by_cases less : yes.val < no.val
  · rw [if_pos less]
    exact ⟨yes, parseUint256Amount_ok.mp yesRead, (min_eq_left (le_of_lt (word_lt_iff.mp less))).symm⟩
  · rw [if_neg less]
    exact ⟨no, parseUint256Amount_ok.mp noRead, (min_eq_right (not_lt.mp fun below => less (word_lt_iff.mpr below))).symm⟩

theorem resolveMergeAmount_cases (conditionId : String) (balances : String × String) (requested : String) :
    (∃ amount yes no merged, resolveMergeAmount conditionId balances requested = .ok amount ∧
        Mergeable balances requested amount yes no merged) ∨
      ∃ what, resolveMergeAmount conditionId balances requested = .error (.invalidArgument what) ∧
        Refused balances requested := by
  unfold resolveMergeAmount
  obtain ⟨yes, yesRead, yesAmount⟩ | ⟨what, failed, unread⟩ := parseUint256Amount_cases balances.1 "balance"
  swap
  · rw [failed]
    exact .inr ⟨what, rfl, .yes unread⟩
  obtain ⟨no, noRead, noAmount⟩ | ⟨what, failed, unread⟩ := parseUint256Amount_cases balances.2 "balance"
  swap
  · rw [yesRead, ok_bind, failed]
    exact .inr ⟨what, rfl, .no unread⟩
  rw [yesRead, ok_bind, noRead, ok_bind]
  obtain ⟨least, smaller, smallest⟩ := least_balance yesRead noRead
  generalize chosen : (if yes.val < no.val then balances.1 else balances.2) = maxAmount at smaller
  have mergeable : amountOf maxAmount = some (min yes.toNat no.toNat) := by
    rw [← smallest]
    exact amountOf_eq_some.mpr ⟨least, smaller, rfl⟩
  have read (label : String) : parseUint256Amount maxAmount label = .ok least := parseUint256Amount_ok.mpr smaller
  unfold uint256IsZero
  dsimp only
  rw [read, ok_bind, ok_bind]
  by_cases zero : isZeroWord least = true
  · rw [if_pos zero]
    refine .inr ⟨_, rfl, .empty yesAmount noAmount ?_⟩
    rw [← smallest]
    exact isZeroWord_iff.mp zero
  have positive : 0 < min yes.toNat no.toNat := by
    rw [← smallest]
    exact Nat.pos_of_ne_zero fun none => zero (isZeroWord_iff.mpr none)
  rw [if_neg zero]
  by_cases all : requested = "max"
  · rw [if_pos all]
    exact .inl ⟨maxAmount, _, _, _, rfl, yesAmount, noAmount, mergeable, positive, le_refl _, fun _ => rfl,
      fun other => absurd all other⟩
  rw [if_neg all]
  unfold requirePositiveAmount
  obtain ⟨wanted, wantedRead, wantedAmount⟩ | ⟨what, failed, unread⟩ :=
    parseUint256Amount_cases requested "merge amount"
  swap
  · rw [failed]
    exact .inr ⟨what, rfl, .malformed all unread⟩
  rw [wantedRead, ok_bind]
  by_cases nothing : isZeroWord wanted = true
  · rw [if_pos nothing]
    exact .inr ⟨_, rfl, .zero all (by rw [wantedAmount, isZeroWord_iff.mp nothing])⟩
  rw [if_neg nothing, ok_bind, read, ok_bind, ok_bind]
  by_cases exceeding : least.val < wanted.val
  · rw [if_pos exceeding]
    refine .inr ⟨_, rfl, .exceeds yesAmount noAmount all wantedAmount ?_⟩
    rw [← smallest]
    exact word_lt_iff.mp exceeding
  · rw [if_neg exceeding]
    refine .inl ⟨requested, _, _, _, rfl, yesAmount, noAmount, wantedAmount, ?_, ?_, fun max => absurd max all,
      fun _ => wantedAmount⟩
    · exact Nat.pos_of_ne_zero fun none => nothing (isZeroWord_iff.mpr none)
    · rw [← smallest]
      exact not_lt.mp fun exceeds => exceeding (word_lt_iff.mpr exceeds)

/-- The two outcomes exclude each other. -/
theorem Mergeable.not_refused {balances : String × String} {requested amount : String} {yes no merged : Nat}
    (mergeable : Mergeable balances requested amount yes no merged) : ¬Refused balances requested := by
  have positive := mergeable.positive
  have atMost := mergeable.atMost
  intro refused
  cases refused with
  | yes none =>
      rw [mergeable.yesBalance] at none
      cases none
  | no none =>
      rw [mergeable.noBalance] at none
      cases none
  | empty yesBalance noBalance zero =>
      rw [mergeable.yesBalance] at yesBalance
      rw [mergeable.noBalance] at noBalance
      cases yesBalance
      cases noBalance
      omega
  | malformed other none =>
      rw [mergeable.asked other] at none
      cases none
  | zero other found =>
      rw [mergeable.asked other] at found
      cases found
      omega
  | exceeds yesBalance noBalance other found above =>
      rw [mergeable.yesBalance] at yesBalance
      rw [mergeable.noBalance] at noBalance
      rw [mergeable.asked other] at found
      cases yesBalance
      cases noBalance
      cases found
      omega

theorem mergeCall_amount {keccak256 : String → Word} {market : MarketPositionContext} {contracts : PolymarketContracts}
    {amount : String} {call : ContractCall} (made : mergeCall keccak256 market contracts amount = .ok call) :
    ∃ arguments value, mergeArguments market.protocol call = some arguments ∧ arguments.getLast? = some (.word value) ∧
      amountOf amount = some value.toNat := by
  unfold mergeCall at made
  split at made
  · next v2 =>
    obtain ⟨_, _, condition, value, -, -, -, parsed, decoded⟩ := routerMergeCall_ok made
    rw [v2]
    exact ⟨_, value, decoded, rfl, amountOf_eq_some.mpr ⟨value, parsed, rfl⟩⟩
  · next other =>
    obtain ⟨_, condition, value, _, _, _, -, -, parsed, decoded⟩ := ctfMergePositionsCall_ok made
    have ctf : market.protocol = .ctf := by
      cases protocol : market.protocol with
      | ctf => rfl
      | v2 => exact absurd protocol other
    rw [ctf]
    exact ⟨_, value, decoded, rfl, amountOf_eq_some.mpr ⟨value, parsed, rfl⟩⟩

/-- A resolved amount can be merged; a request is refused, with `invalid_argument`, for
one of the listed reasons only, and the call carries the amount in its last word. -/
theorem resolved_amount_mergeable (conditionId : String) (balances : String × String) (requested : String) :
    (∀ amount, resolveMergeAmount conditionId balances requested = .ok amount →
      ∃ yes no merged, Mergeable balances requested amount yes no merged ∧
        ∀ keccak256 market contracts call, mergeCall keccak256 market contracts amount = .ok call →
          ∃ arguments value, mergeArguments market.protocol call = some arguments ∧
            arguments.getLast? = some (.word value) ∧ value.toNat = merged) ∧
    (∀ error, resolveMergeAmount conditionId balances requested = .error error →
      ∃ what, error = .invalidArgument what) ∧
    ((∃ error, resolveMergeAmount conditionId balances requested = .error error) ↔ Refused balances requested) := by
  obtain ⟨amount, yes, no, merged, resolved, mergeable⟩ | ⟨what, failed, refused⟩ :=
    resolveMergeAmount_cases conditionId balances requested
  · rw [resolved]
    refine ⟨?_, nofun, nofun, fun refused => absurd refused mergeable.not_refused⟩
    rintro _ ⟨⟩
    refine ⟨yes, no, merged, mergeable, ?_⟩
    intro keccak256 market contracts call made
    obtain ⟨arguments, value, decoded, last, found⟩ := mergeCall_amount made
    rw [mergeable.amount] at found
    exact ⟨arguments, value, decoded, last, (Option.some.inj found).symm⟩
  · rw [failed]
    refine ⟨nofun, ?_, fun _ => refused, fun _ => ⟨_, rfl⟩⟩
    rintro _ ⟨⟩
    exact ⟨what, rfl⟩

/-- The larger balance, spelled shorter, in hex. -/
theorem resolved_amount_mergeable_max :
    ∃ yes no merged, Mergeable ("0x0100", "0099") "max" "0099" yes no merged := by
  obtain ⟨yes, no, merged, mergeable, -⟩ :=
    (resolved_amount_mergeable "0x" ("0x0100", "0099") "max").1 "0099" (by decide +kernel)
  exact ⟨yes, no, merged, mergeable⟩

end Polymarket.Positions
