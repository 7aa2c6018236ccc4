import Mathlib.Order.Bounds.Basic
import Polymarket.Evm.Log

/-! The persisted cursor. `FileBlockCursorStore` keeps one JSON entry per name;
below it stands the cell a single name amounts to, and the file refines the
cells of all its names. -/

set_option autoImplicit false

namespace Polymarket.Evm

structure EvmIndexCursor where
  blockNumber : UInt64
  blockComplete : Bool
  lastLog : Option EvmLogPosition
deriving DecidableEq, Repr

/-- Every log of the block has been processed. -/
def EvmIndexCursor.Covers (cursor : EvmIndexCursor) (block : UInt64) : Prop :=
  block < cursor.blockNumber ∨ (block = cursor.blockNumber ∧ cursor.blockComplete = true)

def cursorAdvances (current next : EvmIndexCursor) : Bool :=
  if next.blockNumber ≠ current.blockNumber then decide (next.blockNumber > current.blockNumber)
  else if current.blockComplete then next.blockComplete
  else if next.blockComplete then true
  else
    match next.lastLog, current.lastLog with
    | none, _ => false
    | some _, none => true
    | some nextLog, some currentLog =>
        if nextLog.blockHash ≠ currentLog.blockHash then false
        else
          decide (nextLog.transactionIndex > currentLog.transactionIndex) ||
            (decide (nextLog.transactionIndex = currentLog.transactionIndex) &&
              decide (nextLog.logIndex ≥ currentLog.logIndex))

/-! ## JSON entries -/

def readQuantity : Json → Except CppError UInt64
  | .unsigned value => .ok value
  | other => do evmQuantityToUint64 (← other.getString)

/-- An entry that is not an object is a legacy quantity: a completed block. -/
def cursorFromJson (value : Json) : Except CppError EvmIndexCursor :=
  if value.isObject then do
    let blockNumber ← readQuantity (← value.at! "blockNumber")
    let blockComplete ← value.value Json.getBool "blockComplete" true
    if value.contains "lastLog" then
      let last ← value.at! "lastLog"
      let transactionIndex ← readQuantity (← last.at! "transactionIndex")
      let logIndex ← readQuantity (← last.at! "logIndex")
      let blockHash ← last.value Json.getString "blockHash" ""
      return ⟨blockNumber, blockComplete, some ⟨transactionIndex, logIndex, blockHash⟩⟩
    else
      return ⟨blockNumber, blockComplete, none⟩
  else do
    return ⟨← readQuantity value, true, none⟩

def lastLogToJson (last : EvmLogPosition) : Json :=
  .object [("transactionIndex", .unsigned last.transactionIndex),
    ("logIndex", .unsigned last.logIndex), ("blockHash", .string last.blockHash)]

def cursorToJson (cursor : EvmIndexCursor) : Json :=
  .object ([("blockNumber", .unsigned cursor.blockNumber),
      ("blockComplete", .bool cursor.blockComplete)] ++
    match cursor.lastLog with
    | some last => [("lastLog", lastLogToJson last)]
    | none => [])

theorem cursorFromJson_cursorToJson (cursor : EvmIndexCursor) :
    cursorFromJson (cursorToJson cursor) = .ok cursor := by
  obtain ⟨blockNumber, blockComplete, lastLog⟩ := cursor
  cases lastLog with
  | none => rfl
  | some last => rfl

/-! ## The file -/

/-- The members of the cursor file's object. Reading the file back after the
atomic replacement gives the members that were written. -/
abbrev CursorFile := List (String × Json)

namespace FileBlockCursorStore

def load (name : String) (data : CursorFile) : Except CppError (Option UInt64) :=
  match data.lookup name with
  | none => .ok none
  | some entry => do
      let cursor ← cursorFromJson entry
      if cursor.blockComplete then return some cursor.blockNumber
      else if cursor.blockNumber = 0 then return none
      else return some (cursor.blockNumber - 1)

def save (name : String) (blockNumber : UInt64) (data : CursorFile) :
    Except CppError CursorFile :=
  match data.lookup name with
  | none => .ok (setMember name (cursorToJson ⟨blockNumber, true, none⟩) data)
  | some entry => do
      let current ← cursorFromJson entry
      if blockNumber < current.blockNumber then return data
      else return setMember name (cursorToJson ⟨blockNumber, true, none⟩) data

def loadCursor (name : String) (data : CursorFile) : Except CppError (Option EvmIndexCursor) :=
  match data.lookup name with
  | none => .ok none
  | some entry => do return some (← cursorFromJson entry)

def saveCursor (name : String) (cursor : EvmIndexCursor) (data : CursorFile) :
    Except CppError CursorFile :=
  match data.lookup name with
  | none => .ok (setMember name (cursorToJson cursor) data)
  | some entry => do
      let current ← cursorFromJson entry
      if !cursorAdvances current cursor then return data
      else return setMember name (cursorToJson cursor) data

def rewind (name : String) (fromBlock : UInt64) (data : CursorFile) :
    Except CppError CursorFile :=
  match data.lookup name with
  | none => .ok data
  | some entry => do
      let current ← cursorFromJson entry
      if fromBlock > current.blockNumber then return data
      else return setMember name (cursorToJson ⟨fromBlock, false, none⟩) data

end FileBlockCursorStore

/-! ## Cells -/

/-- What one name of a store holds. -/
abbrev CursorCell := Option EvmIndexCursor

namespace CursorCell

def saveCursor (cursor : EvmIndexCursor) : CursorCell → CursorCell
  | none => some cursor
  | some current => if cursorAdvances current cursor then some cursor else some current

def save (blockNumber : UInt64) : CursorCell → CursorCell
  | none => some ⟨blockNumber, true, none⟩
  | some current =>
      if blockNumber < current.blockNumber then some current else some ⟨blockNumber, true, none⟩

def rewind (fromBlock : UInt64) : CursorCell → CursorCell
  | none => none
  | some current =>
      if fromBlock > current.blockNumber then some current else some ⟨fromBlock, false, none⟩

/-- The legacy view: the last block that is complete together with every
block before it. -/
def load : CursorCell → Option UInt64
  | none => none
  | some cursor =>
      if cursor.blockComplete then some cursor.blockNumber
      else if cursor.blockNumber = 0 then none
      else some (cursor.blockNumber - 1)

end CursorCell

/-- Every entry is a legacy quantity or a cursor object. -/
def CursorFile.Valid (data : CursorFile) : Prop :=
  ∀ name entry, data.lookup name = some entry → ∃ cursor, cursorFromJson entry = .ok cursor

/-- The file holds these cells. -/
def CursorFile.Holds (data : CursorFile) (cells : String → CursorCell) : Prop :=
  ∀ name, FileBlockCursorStore.loadCursor name data = .ok (cells name)

theorem CursorFile.Valid.holds {data : CursorFile} (valid : data.Valid) :
    ∃ cells, data.Holds cells := by
  have each : ∀ name, ∃ cell, FileBlockCursorStore.loadCursor name data = .ok cell := by
    intro name
    unfold FileBlockCursorStore.loadCursor
    cases found : data.lookup name with
    | none => exact ⟨none, rfl⟩
    | some entry =>
        obtain ⟨cursor, parsed⟩ := valid name entry found
        exact ⟨some cursor, by simp [parsed, bind, Except.bind, pure, Except.pure]⟩
  exact ⟨fun name => (each name).choose, fun name => (each name).choose_spec⟩

private theorem loadCursor_cases {data : CursorFile} {name : String} {cell : CursorCell}
    (held : FileBlockCursorStore.loadCursor name data = .ok cell) :
    (data.lookup name = none ∧ cell = none) ∨
      ∃ entry cursor, data.lookup name = some entry ∧ cursorFromJson entry = .ok cursor ∧
        cell = some cursor := by
  unfold FileBlockCursorStore.loadCursor at held
  cases found : data.lookup name with
  | none =>
      simp only [found, Except.ok.injEq] at held
      exact .inl ⟨rfl, held.symm⟩
  | some entry =>
      cases parsed : cursorFromJson entry with
      | error error => simp [found, parsed, bind, Except.bind] at held
      | ok cursor =>
          simp only [found, parsed, bind, Except.bind, pure, Except.pure, Except.ok.injEq] at held
          exact .inr ⟨entry, cursor, rfl, parsed, held.symm⟩

private theorem holds_setMember {data : CursorFile} {cells : String → CursorCell} {name : String}
    {cursor : EvmIndexCursor} (holds : data.Holds cells) :
    CursorFile.Holds (setMember name (cursorToJson cursor) data)
      (Function.update cells name (some cursor)) := by
  intro other
  by_cases same : other = name
  · subst same
    simp [FileBlockCursorStore.loadCursor, cursorFromJson_cursorToJson, bind, Except.bind, pure,
      Except.pure]
  · have untouched := holds other
    simpa only [FileBlockCursorStore.loadCursor, lookup_setMember_of_ne same,
      Function.update_of_ne same] using untouched

private theorem holds_unchanged {data : CursorFile} {cells : String → CursorCell} {name : String}
    {cell : CursorCell} (holds : data.Holds cells) (same : cell = cells name) :
    data.Holds (Function.update cells name cell) := by
  rw [same, Function.update_eq_self]
  exact holds

/-! ## The file refines its cells -/

namespace FileBlockCursorStore

variable {data : CursorFile} {cells : String → CursorCell}

theorem load_refines (holds : data.Holds cells) (name : String) :
    load name data = .ok (cells name).load := by
  rcases loadCursor_cases (holds name) with ⟨absent, cell⟩ | ⟨entry, cursor, found, parsed, cell⟩
  · simp [load, absent, cell, CursorCell.load]
  · simp only [load, found, parsed, cell, CursorCell.load, bind, Except.bind, pure, Except.pure]
    split
    · rfl
    · split <;> rfl

theorem save_refines (holds : data.Holds cells) (name : String) (blockNumber : UInt64) :
    ∃ next, save name blockNumber data = .ok next ∧
      next.Holds (Function.update cells name ((cells name).save blockNumber)) := by
  rcases loadCursor_cases (holds name) with ⟨absent, cell⟩ | ⟨entry, current, found, parsed, cell⟩
  · refine ⟨setMember name (cursorToJson ⟨blockNumber, true, none⟩) data, ?_, ?_⟩
    · simp only [save, absent]
    · simpa only [cell, CursorCell.save] using holds_setMember holds
  · by_cases behind : blockNumber < current.blockNumber
    · refine ⟨data, ?_, holds_unchanged holds ?_⟩
      · simp [save, found, parsed, behind, bind, Except.bind, pure, Except.pure]
      · simp [cell, CursorCell.save, behind]
    · refine ⟨setMember name (cursorToJson ⟨blockNumber, true, none⟩) data, ?_, ?_⟩
      · simp [save, found, parsed, behind, bind, Except.bind, pure, Except.pure]
      · simpa [cell, CursorCell.save, behind] using holds_setMember holds

theorem saveCursor_refines (holds : data.Holds cells) (name : String) (cursor : EvmIndexCursor) :
    ∃ next, saveCursor name cursor data = .ok next ∧
      next.Holds (Function.update cells name ((cells name).saveCursor cursor)) := by
  rcases loadCursor_cases (holds name) with ⟨absent, cell⟩ | ⟨entry, current, found, parsed, cell⟩
  · refine ⟨setMember name (cursorToJson cursor) data, ?_, ?_⟩
    · simp only [saveCursor, absent]
    · simpa only [cell, CursorCell.saveCursor] using holds_setMember holds
  · by_cases advances : cursorAdvances current cursor = true
    · refine ⟨setMember name (cursorToJson cursor) data, ?_, ?_⟩
      · simp [saveCursor, found, parsed, advances, bind, Except.bind, pure, Except.pure]
      · simpa [cell, CursorCell.saveCursor, advances] using holds_setMember holds
    · refine ⟨data, ?_, holds_unchanged holds ?_⟩
      · simp [saveCursor, found, parsed, advances, bind, Except.bind, pure, Except.pure]
      · simp [cell, CursorCell.saveCursor, advances]

theorem rewind_refines (holds : data.Holds cells) (name : String) (fromBlock : UInt64) :
    ∃ next, rewind name fromBlock data = .ok next ∧
      next.Holds (Function.update cells name ((cells name).rewind fromBlock)) := by
  rcases loadCursor_cases (holds name) with ⟨absent, cell⟩ | ⟨entry, current, found, parsed, cell⟩
  · refine ⟨data, ?_, holds_unchanged holds ?_⟩
    · simp only [rewind, absent]
    · simp [cell, CursorCell.rewind]
  · by_cases behind : fromBlock > current.blockNumber
    · refine ⟨data, ?_, holds_unchanged holds ?_⟩
      · simp [rewind, found, parsed, behind, bind, Except.bind, pure, Except.pure]
      · simp [cell, CursorCell.rewind, behind]
    · refine ⟨setMember name (cursorToJson ⟨fromBlock, false, none⟩) data, ?_, ?_⟩
      · simp [rewind, found, parsed, behind, bind, Except.bind, pure, Except.pure]
      · simpa [cell, CursorCell.rewind, behind] using holds_setMember holds

theorem rewind_unchanged (holds : data.Holds cells) (name : String) (fromBlock : UInt64)
    (behind : ∀ current, cells name = some current → current.blockNumber < fromBlock) :
    rewind name fromBlock data = .ok data := by
  rcases loadCursor_cases (holds name) with ⟨absent, _⟩ | ⟨entry, current, found, parsed, cell⟩
  · simp only [rewind, absent]
  · simp [rewind, found, parsed, behind current cell, bind, Except.bind, pure, Except.pure]

end FileBlockCursorStore

end Polymarket.Evm
