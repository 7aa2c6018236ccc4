import Polymarket.Evm.Indexer.Convergence
import Polymarket.Positions.ConditionIds
import Polymarket.StdString

/-! Logs as a node spells them in JSON, and whether the identity made of their texts
is the identity of the log. -/

set_option autoImplicit false

namespace Polymarket.Evm

open Orders (Bytes fromHex toHex strip0x)
open Positions (evmNormalizeHex evmNormalizeHex_eq)
open Indexer (DeliveredLogs admitLog Keyed)

/-! ## Parsing -/

def topicsFromJson : List Json → Except CppError (List String)
  | [] => .ok []
  | topic :: rest => do
      let text ← topic.getString
      let topics ← topicsFromJson rest
      .ok (evmNormalizeHex text :: topics)

def topicsOf (raw : Json) : Except CppError (List String) :=
  match raw.find? "topics" with
  | some (.array topics) => topicsFromJson topics
  | _ => .ok []

def evmLogFromJson (raw : Json) : Except CppError EvmLog := do
  let address ← raw.value Json.getString "address" ""
  let blockHash ← raw.value Json.getString "blockHash" ""
  let blockNumber ← raw.value Json.getString "blockNumber" ""
  let transactionHash ← raw.value Json.getString "transactionHash" ""
  let transactionIndex ← raw.value Json.getString "transactionIndex" ""
  let logIndex ← raw.value Json.getString "logIndex" ""
  let data ← raw.value Json.getString "data" "0x"
  let removed ← raw.value Json.getBool "removed" false
  let topics ← topicsOf raw
  -- The block hash is normalized; the transaction hash and the index stay as spelled.
  .ok {
    address := evmNormalizeHex address
    blockHash := evmNormalizeHex blockHash
    blockNumber
    transactionHash
    transactionIndex
    logIndex
    data := evmNormalizeHex data
    topics
    removed }

/-- A text member, empty where the object has none. -/
def logText (raw : Json) (key : String) : String :=
  match raw.value Json.getString key "" with
  | .ok text => text
  | .error _ => ""

theorem logText_eq {raw : Json} {key text : String} (read : raw.value Json.getString key "" = .ok text) :
    logText raw key = text := by
  simp only [logText, read]

/-- The parts of the identity are the normal block hash and two texts of the object. -/
theorem evmLogFromJson_parts {raw : Json} {log : EvmLog} (parsed : evmLogFromJson raw = .ok log) :
    log.blockHash = evmNormalizeHex (logText raw "blockHash") ∧
      log.transactionHash = logText raw "transactionHash" ∧ log.logIndex = logText raw "logIndex" := by
  unfold evmLogFromJson at parsed
  obtain ⟨address, -, parsed⟩ := bind_ok parsed
  obtain ⟨blockHash, blockRead, parsed⟩ := bind_ok parsed
  obtain ⟨blockNumber, -, parsed⟩ := bind_ok parsed
  obtain ⟨transactionHash, transactionRead, parsed⟩ := bind_ok parsed
  obtain ⟨transactionIndex, -, parsed⟩ := bind_ok parsed
  obtain ⟨logIndex, indexRead, parsed⟩ := bind_ok parsed
  obtain ⟨data, -, parsed⟩ := bind_ok parsed
  obtain ⟨removed, -, parsed⟩ := bind_ok parsed
  obtain ⟨topics, -, parsed⟩ := bind_ok parsed
  cases parsed
  rw [logText_eq blockRead, logText_eq transactionRead, logText_eq indexRead]
  exact ⟨rfl, rfl, rfl⟩

/-! ## Values -/

/-- What the members of the identity stand for. -/
structure LogValues where
  blockHash : Bytes
  transactionHash : Bytes
  logIndex : UInt64
deriving DecidableEq, Repr

structure Denotes (raw : Json) (values : LogValues) : Prop where
  blockHash : fromHex (logText raw "blockHash") = .ok values.blockHash
  transactionHash : fromHex (logText raw "transactionHash") = .ok values.transactionHash
  logIndex : evmQuantityToUint64 (logText raw "logIndex") = .ok values.logIndex

theorem toHex_injective {left right : Bytes} (same : toHex left = toHex right) : left = right := by
  have read := Orders.fromHex_toHex left
  rw [same, Orders.fromHex_toHex] at read
  cases read
  rfl

theorem hex_without_colon {text : String} {bytes : Bytes} (read : fromHex text = .ok bytes) :
    ':' ∉ text.toList := by
  have digits := (Orders.fromHex_ok read).1
  have clean : ':' ∉ (strip0x text).toList := fun member => absurd (digits ':' member) (by decide)
  by_cases marked : ∃ marker digits, (marker = 'x' ∨ marker = 'X') ∧ text.toList = '0' :: marker :: digits
  · obtain ⟨marker, digits, marker_x, spelled⟩ := marked
    rw [Orders.strip0x_prefixed marker_x spelled] at clean
    rw [spelled]
    rcases marker_x with rfl | rfl
    · simpa using clean
    · simpa using clean
  · rwa [Orders.strip0x_plain fun marker digits marker_x spelled => marked ⟨marker, digits, marker_x, spelled⟩]
      at clean

theorem quantity_nonempty {text : String} {value : UInt64} (read : evmQuantityToUint64 text = .ok value) :
    text ≠ "" := by
  rintro rfl
  cases read

/-! ## Identities -/

/-- A log whose texts are read from an object with the given values. -/
structure Reads (raw : Json) (values : LogValues) (log : EvmLog) : Prop where
  parsed : evmLogFromJson raw = .ok log
  denotes : Denotes raw values

section Parts

variable {raw : Json} {values : LogValues} {log : EvmLog} (reads : Reads raw values log)
include reads

theorem Reads.blockHash : log.blockHash = toHex values.blockHash := by
  rw [(evmLogFromJson_parts reads.parsed).1, evmNormalizeHex_eq reads.denotes.blockHash]

theorem Reads.blockHash_clean : ':' ∉ log.blockHash.toList := by
  rw [reads.blockHash]
  exact hex_without_colon (Orders.fromHex_toHex values.blockHash)

theorem Reads.transactionHash_clean : ':' ∉ log.transactionHash.toList := by
  rw [(evmLogFromJson_parts reads.parsed).2.1]
  exact hex_without_colon reads.denotes.transactionHash

/-- A block hash is never empty once it is normalized, an index never when it is read. -/
theorem Reads.identity :
    evmLogIdentity log =
      if log.transactionHash = "" then "" else log.blockHash ++ ":" ++ log.transactionHash ++ ":" ++ log.logIndex := by
  have block : log.blockHash ≠ "" := by
    rw [reads.blockHash]
    intro empty
    have spelled := congrArg String.toList empty
    rw [toHex, String.toList_append] at spelled
    cases spelled
  have index : log.logIndex ≠ "" := by
    rw [(evmLogFromJson_parts reads.parsed).2.2]
    exact quantity_nonempty reads.denotes.logIndex
  simp only [evmLogIdentity, block, index, false_or, or_false]

theorem Reads.identity_empty : evmLogIdentity log = "" ↔ logText raw "transactionHash" = "" := by
  rw [reads.identity, ← (evmLogFromJson_parts reads.parsed).2.1]
  split
  · next empty => simp [empty]
  · next named =>
    constructor
    · intro empty
      have spelled := congrArg String.toList empty
      simp [String.toList_append] at spelled
    · exact fun empty => absurd empty named

end Parts

/-- The identities of two logs with a transaction hash agree part by part. -/
theorem evmLogIdentity_eq_iff {leftRaw rightRaw : Json} {leftValues rightValues : LogValues} {left right : EvmLog}
    (leftReads : Reads leftRaw leftValues left) (rightReads : Reads rightRaw rightValues right)
    (leftNamed : left.transactionHash ≠ "") (rightNamed : right.transactionHash ≠ "") :
    evmLogIdentity left = evmLogIdentity right ↔
      leftValues.blockHash = rightValues.blockHash ∧ left.transactionHash = right.transactionHash ∧
        left.logIndex = right.logIndex := by
  rw [leftReads.identity, if_neg leftNamed, rightReads.identity, if_neg rightNamed]
  constructor
  · intro same
    have spelled := congrArg String.toList same
    simp only [String.toList_append, List.append_assoc] at spelled
    obtain ⟨blocks, behind⟩ := separated_injective leftReads.blockHash_clean rightReads.blockHash_clean spelled
    obtain ⟨transactions, indices⟩ :=
      separated_injective leftReads.transactionHash_clean rightReads.transactionHash_clean behind
    rw [leftReads.blockHash, rightReads.blockHash] at blocks
    exact ⟨toHex_injective (String.toList_inj.mp blocks), String.toList_inj.mp transactions,
      String.toList_inj.mp indices⟩
  · rintro ⟨blocks, transactions, indices⟩
    rw [leftReads.blockHash, rightReads.blockHash, blocks, transactions, indices]

/-! ## One log, one identity -/

/-- The log as it arrives when it is mined rather than removed. -/
def EvmLog.mined (log : EvmLog) : EvmLog := { log with removed := false }

/-- The identities of two logs say whether they are the same log; of the same log, a
second copy is not delivered, and a canonical copy keeps the first from being retracted. -/
structure OneIdentity (same : Prop) (left right : EvmLog) : Prop where
  identified : evmLogIdentity left = evmLogIdentity right ↔ same
  once : same → ∀ logs block otherBlock,
    (admitLog right.mined (evmLogIdentity right) otherBlock
      (admitLog left.mined (evmLogIdentity left) block logs).2).1 = none
  kept : same → ∀ blockOf logs, Keyed blockOf logs → ∀ (range : EvmBlockRange) (canonical : List EvmLog),
    right.mined ∈ canonical →
    evmLogIdentity left ∉ (logs.orphans range
      ((canonical.filter fun log => !log.removed).map evmLogIdentity)).map evmLogIdentity

/-- The two objects spell the parts of the identity alike where they mean the same log, and
one of them has a transaction hash. -/
def SpelledAlike (leftRaw rightRaw : Json) (same : Prop) : Prop :=
  (same → logText leftRaw "transactionHash" = logText rightRaw "transactionHash" ∧
    logText leftRaw "logIndex" = logText rightRaw "logIndex") ∧
  ¬(logText leftRaw "transactionHash" = "" ∧ logText rightRaw "transactionHash" = "")

theorem admitted_once {left right : EvmLog} (same : evmLogIdentity left = evmLogIdentity right)
    (named : evmLogIdentity right ≠ "") (logs : DeliveredLogs) (block otherBlock : UInt64) :
    (admitLog right.mined (evmLogIdentity right) otherBlock
      (admitLog left.mined (evmLogIdentity left) block logs).2).1 = none := by
  rw [same]
  by_cases held : evmLogIdentity right ∈ logs
  · simp [admitLog, EvmLog.mined, named, held]
  · simp [admitLog, EvmLog.mined, named, held]

theorem identity_not_orphaned {left right : EvmLog} (same : evmLogIdentity left = evmLogIdentity right)
    {blockOf : String → UInt64} {logs : DeliveredLogs} (keyed : Keyed blockOf logs) (range : EvmBlockRange)
    {canonical : List EvmLog} (member : right.mined ∈ canonical) :
    evmLogIdentity left ∉ (logs.orphans range
      ((canonical.filter fun log => !log.removed).map evmLogIdentity)).map evmLogIdentity := by
  rw [Indexer.mem_orphans_identities keyed]
  rintro ⟨-, absent⟩
  apply absent
  rw [same]
  exact List.mem_map.mpr ⟨right.mined, List.mem_filter.mpr ⟨member, rfl⟩, rfl⟩

section Pair

variable {leftRaw rightRaw : Json} {leftValues rightValues : LogValues} {left right : EvmLog}
  (leftReads : Reads leftRaw leftValues left) (rightReads : Reads rightRaw rightValues right)
include leftReads rightReads

/-- Equal identities of which one is not empty belong to two named transactions. -/
theorem named_of_identities (identities : evmLogIdentity left = evmLogIdentity right)
    (named : ¬(logText leftRaw "transactionHash" = "" ∧ logText rightRaw "transactionHash" = "")) :
    left.transactionHash ≠ "" ∧ right.transactionHash ≠ "" := by
  rw [← leftReads.identity_empty, ← rightReads.identity_empty, ← identities, and_self] at named
  rw [(evmLogFromJson_parts leftReads.parsed).2.1, (evmLogFromJson_parts rightReads.parsed).2.1]
  constructor
  · exact fun empty => named (leftReads.identity_empty.mpr empty)
  · exact fun empty => named (identities.trans (rightReads.identity_empty.mpr empty))

theorem values_of_texts (blocks : leftValues.blockHash = rightValues.blockHash)
    (transactions : logText leftRaw "transactionHash" = logText rightRaw "transactionHash")
    (indices : logText leftRaw "logIndex" = logText rightRaw "logIndex") : leftValues = rightValues := by
  have transactionRead := leftReads.denotes.transactionHash
  have indexRead := leftReads.denotes.logIndex
  rw [transactions, rightReads.denotes.transactionHash, Except.ok.injEq] at transactionRead
  rw [indices, rightReads.denotes.logIndex, Except.ok.injEq] at indexRead
  cases leftValues
  cases rightValues
  rw [LogValues.mk.injEq]
  exact ⟨blocks, transactionRead.symm, indexRead.symm⟩

/-- Two objects read into logs of one identity exactly when they spell it alike. -/
theorem evmLogIdentity_exact :
    OneIdentity (leftValues = rightValues) left right ↔
      SpelledAlike leftRaw rightRaw (leftValues = rightValues) := by
  have leftParts := evmLogFromJson_parts leftReads.parsed
  have rightParts := evmLogFromJson_parts rightReads.parsed
  constructor
  · intro one
    have named : ¬(logText leftRaw "transactionHash" = "" ∧ logText rightRaw "transactionHash" = "") := by
      rintro ⟨leftEmpty, rightEmpty⟩
      have leftIdentity := leftReads.identity_empty.mpr leftEmpty
      have rightIdentity := rightReads.identity_empty.mpr rightEmpty
      have same := one.identified.mp (leftIdentity.trans rightIdentity.symm)
      have second := one.once same ∅ 0 0
      rw [leftIdentity, rightIdentity] at second
      cases second
    refine ⟨fun same => ?_, named⟩
    have identities := one.identified.mpr same
    obtain ⟨leftNamed, rightNamed⟩ := named_of_identities leftReads rightReads identities named
    have parts := (evmLogIdentity_eq_iff leftReads rightReads leftNamed rightNamed).mp identities
    rw [leftParts.2.1, rightParts.2.1, leftParts.2.2, rightParts.2.2] at parts
    exact parts.2
  · rintro ⟨alike, named⟩
    have identities (same : leftValues = rightValues) : evmLogIdentity left = evmLogIdentity right := by
      obtain ⟨transactions, indices⟩ := alike same
      have leftNamed : left.transactionHash ≠ "" := by
        rw [leftParts.2.1]
        exact fun empty => named ⟨empty, transactions ▸ empty⟩
      have texts : left.transactionHash = right.transactionHash := by
        rw [leftParts.2.1, rightParts.2.1, transactions]
      apply (evmLogIdentity_eq_iff leftReads rightReads leftNamed (texts ▸ leftNamed)).mpr
      rw [same, leftParts.2.2, rightParts.2.2, indices]
      exact ⟨rfl, texts, rfl⟩
    constructor
    · constructor
      · intro same
        obtain ⟨leftNamed, rightNamed⟩ := named_of_identities leftReads rightReads same named
        obtain ⟨blocks, transactions, indices⟩ :=
          (evmLogIdentity_eq_iff leftReads rightReads leftNamed rightNamed).mp same
        rw [leftParts.2.1, rightParts.2.1] at transactions
        rw [leftParts.2.2, rightParts.2.2] at indices
        exact values_of_texts leftReads rightReads blocks transactions indices
      · exact identities
    · intro same
      have present : evmLogIdentity right ≠ "" := by
        intro empty
        have leftEmpty := leftReads.identity_empty.mp ((identities same).trans empty)
        exact named ⟨leftEmpty, rightReads.identity_empty.mp empty⟩
      exact admitted_once (identities same) present
    · intro same blockOf logs keyed range canonical member
      exact identity_not_orphaned (identities same) keyed range member

end Pair

/-! ## Two spellings -/

/-- One log of one block, with the hashes as given. -/
def spelledLog (blockHash transactionHash : String) : Json :=
  .object [("blockHash", .string blockHash), ("blockNumber", .string "0x10"),
    ("transactionHash", .string transactionHash), ("logIndex", .string "0x0"), ("removed", .bool false)]

def spelledValues : LogValues := ⟨[0x1a], [0xab], 0⟩

/-- What the log is read as. -/
def readLog (transactionHash : String) : EvmLog where
  address := "0x"
  blockHash := "0x1a"
  blockNumber := "0x10"
  transactionHash := transactionHash
  logIndex := "0x0"
  data := "0x"

theorem readLog_reads {blockHash transactionHash : String} (block : fromHex blockHash = .ok [0x1a])
    (read : fromHex transactionHash = .ok [0xab]) :
    Reads (spelledLog blockHash transactionHash) spelledValues (readLog transactionHash) where
  parsed := by
    have normal : readLog transactionHash = { readLog transactionHash with blockHash := evmNormalizeHex blockHash } := by
      rw [evmNormalizeHex_eq block, show toHex [0x1a] = "0x1a" by decide]
      rfl
    rw [normal]
    rfl
  denotes := ⟨block, read, (by decide : evmQuantityToUint64 "0x0" = .ok 0)⟩

/-- A block hash in upper case and in lower case: one log, one identity. -/
theorem evmLogIdentity_exact_blockHash :
    Reads (spelledLog "0x1A" "0xab") spelledValues (readLog "0xab") ∧
      Reads (spelledLog "0x1a" "0xab") spelledValues (readLog "0xab") ∧
      OneIdentity (spelledValues = spelledValues) (readLog "0xab") (readLog "0xab") := by
  have upper : Reads (spelledLog "0x1A" "0xab") spelledValues (readLog "0xab") := readLog_reads (by decide) (by decide)
  have lower : Reads (spelledLog "0x1a" "0xab") spelledValues (readLog "0xab") := readLog_reads (by decide) (by decide)
  refine ⟨upper, lower, (evmLogIdentity_exact upper lower).mpr ⟨fun _ => ⟨rfl, rfl⟩, ?_⟩⟩
  decide

/-- A transaction hash in upper case and in lower case: one log, two identities. Both copies
are delivered, and an answer that holds the second retracts the first. -/
theorem evmLogIdentity_two_spellings :
    Reads (spelledLog "0x1a" "0xAB") spelledValues (readLog "0xAB") ∧
      Reads (spelledLog "0x1a" "0xab") spelledValues (readLog "0xab") ∧
      ¬OneIdentity (spelledValues = spelledValues) (readLog "0xAB") (readLog "0xab") ∧
      (admitLog (readLog "0xab") (evmLogIdentity (readLog "0xab")) 16
        (admitLog (readLog "0xAB") (evmLogIdentity (readLog "0xAB")) 16 ∅).2).1 = some none ∧
      DeliveredLogs.orphans ⟨16, 16⟩ [evmLogIdentity (readLog "0xab")]
        (admitLog (readLog "0xAB") (evmLogIdentity (readLog "0xAB")) 16 ∅).2 =
          [{ readLog "0xAB" with removed := true }] :=
  ⟨readLog_reads (by decide) (by decide), readLog_reads (by decide) (by decide),
    fun one => absurd (one.identified.mpr rfl) (by decide), by decide, by decide⟩

end Polymarket.Evm
