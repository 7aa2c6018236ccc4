import Polymarket.Evm.CursorStore

/-! The cursor file as a monotone cursor per name, over every sequence of
calls. -/

set_option autoImplicit false

namespace Polymarket.Evm

/-- The order of cursors: by block, and inside a block no log, then a log
position, then completion. Positions under different block hashes are not
comparable. -/
def EvmIndexCursor.Le (current next : EvmIndexCursor) : Prop :=
  current.blockNumber < next.blockNumber ∨
    (current.blockNumber = next.blockNumber ∧
      (next.blockComplete = true ∨
        (current.blockComplete = false ∧
          match current.lastLog, next.lastLog with
          | none, _ => True
          | some _, none => False
          | some currentLog, some nextLog =>
              currentLog.blockHash = nextLog.blockHash ∧ currentLog.key ≤ nextLog.key)))

theorem EvmIndexCursor.Le.refl (cursor : EvmIndexCursor) : cursor.Le cursor := by
  refine .inr ⟨rfl, ?_⟩
  cases complete : cursor.blockComplete with
  | true => exact .inl rfl
  | false =>
      refine .inr ⟨rfl, ?_⟩
      cases cursor.lastLog with
      | none => trivial
      | some last => exact ⟨rfl, le_refl _⟩

theorem EvmIndexCursor.Le.trans {first second third : EvmIndexCursor} (early : first.Le second)
    (late : second.Le third) : first.Le third := by
  rcases early with before | ⟨same, early⟩
  · rcases late with later | ⟨again, _⟩
    · exact .inl (before.trans later)
    · exact .inl (again ▸ before)
  · rcases late with later | ⟨again, late⟩
    · exact .inl (same ▸ later)
    · refine .inr ⟨same.trans again, ?_⟩
      rcases late with complete | ⟨incomplete, late⟩
      · exact .inl complete
      · rcases early with complete | ⟨open', early⟩
        · rw [complete] at incomplete
          cases incomplete
        · refine .inr ⟨open', ?_⟩
          rcases first with ⟨_, _, _ | firstLog⟩
          · trivial
          · rcases second with ⟨_, _, _ | secondLog⟩
            · exact early.elim
            · rcases third with ⟨_, _, _ | thirdLog⟩
              · exact late.elim
              · exact ⟨early.1.trans late.1, early.2.trans late.2⟩

theorem cursorAdvances_le {current next : EvmIndexCursor}
    (advances : cursorAdvances current next = true) : current.Le next := by
  unfold cursorAdvances at advances
  split at advances
  · exact .inl (by simpa using advances)
  · next same =>
    refine .inr ⟨(not_not.mp same).symm, ?_⟩
    split at advances
    · exact .inl advances
    · next incomplete =>
      split at advances
      · next complete => exact .inl complete
      · refine .inr ⟨by simpa using incomplete, ?_⟩
        split at advances
        · cases advances
        · next currentNone => simp only [currentNone]
        · next nextLog currentLog nextSome currentSome =>
          split at advances
          · cases advances
          · next hashes =>
            simp only [nextSome, currentSome]
            refine ⟨(not_not.mp hashes).symm, ?_⟩
            simp only [gt_iff_lt, ge_iff_le, Bool.or_eq_true, Bool.and_eq_true,
              decide_eq_true_eq] at advances
            rw [EvmLogPosition.key, EvmLogPosition.key, Prod.Lex.toLex_le_toLex]
            exact advances.imp_right fun later => ⟨later.1.symm, later.2⟩

/-! ## Calls -/

/-- A call on the store. -/
inductive StoreCall where
  | load (name : String)
  | save (name : String) (blockNumber : UInt64)
  | loadCursor (name : String)
  | saveCursor (name : String) (cursor : EvmIndexCursor)
  | rewind (name : String) (fromBlock : UInt64)

namespace StoreCall

def name : StoreCall → String
  | load name | save name _ | loadCursor name | saveCursor name _ | rewind name _ => name

def Rewinds (target : String) : StoreCall → Prop
  | rewind name _ => name = target
  | _ => False

def Saves : StoreCall → Prop
  | save .. | saveCursor .. => True
  | _ => False

def perform (data : CursorFile) : StoreCall → Except CppError CursorFile
  | load name => do
      let _ ← FileBlockCursorStore.load name data
      return data
  | save name blockNumber => FileBlockCursorStore.save name blockNumber data
  | loadCursor name => do
      let _ ← FileBlockCursorStore.loadCursor name data
      return data
  | saveCursor name cursor => FileBlockCursorStore.saveCursor name cursor data
  | rewind name fromBlock => FileBlockCursorStore.rewind name fromBlock data

def performAll (data : CursorFile) : List StoreCall → Except CppError CursorFile
  | [] => .ok data
  | call :: rest => do performAll (← call.perform data) rest

/-- What the call does to the cell of its name. -/
def onCell (cell : CursorCell) : StoreCall → CursorCell
  | load _ | loadCursor _ => cell
  | save _ blockNumber => cell.save blockNumber
  | saveCursor _ cursor => cell.saveCursor cursor
  | rewind _ fromBlock => cell.rewind fromBlock

def onCells (cells : String → CursorCell) (call : StoreCall) : String → CursorCell :=
  Function.update cells call.name (call.onCell (cells call.name))

theorem perform_refines {data : CursorFile} {cells : String → CursorCell} (holds : data.Holds cells)
    (call : StoreCall) : ∃ next, call.perform data = .ok next ∧ next.Holds (call.onCells cells) := by
  cases call with
  | load name =>
      refine ⟨data, ?_, by simpa [onCells, StoreCall.name, onCell] using holds⟩
      simp [perform, FileBlockCursorStore.load_refines holds, bind, Except.bind, pure, Except.pure]
  | save name blockNumber => exact FileBlockCursorStore.save_refines holds name blockNumber
  | loadCursor name =>
      refine ⟨data, ?_, by simpa [onCells, StoreCall.name, onCell] using holds⟩
      simp [perform, holds name, bind, Except.bind, pure, Except.pure]
  | saveCursor name cursor => exact FileBlockCursorStore.saveCursor_refines holds name cursor
  | rewind name fromBlock => exact FileBlockCursorStore.rewind_refines holds name fromBlock

theorem performAll_refines {data : CursorFile} {cells : String → CursorCell}
    (holds : data.Holds cells) (calls : List StoreCall) :
    ∃ next, performAll data calls = .ok next ∧ next.Holds (calls.foldl onCells cells) := by
  induction calls generalizing data cells with
  | nil => exact ⟨data, rfl, holds⟩
  | cons call rest ih =>
      obtain ⟨middle, performed, middleHolds⟩ := call.perform_refines holds
      obtain ⟨next, finished, nextHolds⟩ := ih middleHolds
      exact ⟨next, by simpa only [performAll, performed, bind, Except.bind] using finished, nextHolds⟩

/-- Without a rewind of the name, one call never lowers its cursor. -/
theorem onCells_le {call : StoreCall} {name : String} (kept : ¬ call.Rewinds name)
    {cells : String → CursorCell} {current : EvmIndexCursor} (held : cells name = some current) :
    ∃ next, call.onCells cells name = some next ∧ current.Le next := by
  by_cases same : name = call.name
  · subst same
    simp only [onCells, Function.update_self, held]
    cases call with
    | load name | loadCursor name => exact ⟨current, rfl, .refl current⟩
    | save name blockNumber =>
        simp only [onCell, CursorCell.save]
        split
        · exact ⟨current, rfl, .refl current⟩
        · next reached =>
          refine ⟨_, rfl, ?_⟩
          rcases (not_lt.mp reached).lt_or_eq with before | equal
          · exact .inl before
          · exact .inr ⟨equal, .inl rfl⟩
    | saveCursor name cursor =>
        simp only [onCell, CursorCell.saveCursor]
        split
        · next advances => exact ⟨cursor, rfl, cursorAdvances_le advances⟩
        · exact ⟨current, rfl, .refl current⟩
    | rewind name fromBlock => exact (kept rfl).elim
  · exact ⟨current, by simpa only [onCells, Function.update_of_ne same] using held, .refl current⟩

theorem foldl_onCells_le {calls : List StoreCall} {name : String}
    (kept : ∀ call ∈ calls, ¬ call.Rewinds name) {cells : String → CursorCell}
    {current : EvmIndexCursor} (held : cells name = some current) :
    ∃ next, calls.foldl onCells cells name = some next ∧ current.Le next := by
  induction calls generalizing cells current with
  | nil => exact ⟨current, held, .refl current⟩
  | cons call rest ih =>
      obtain ⟨middle, middleHeld, early⟩ := onCells_le (kept call (by simp)) held
      obtain ⟨next, nextHeld, late⟩ := ih (fun later member => kept later (by simp [member])) middleHeld
      exact ⟨next, nextHeld, early.trans late⟩

end StoreCall

/-! ## The legacy view -/

private theorem covers_iff {cursor : EvmIndexCursor} {block : UInt64} :
    (∀ earlier ≤ block, cursor.Covers earlier) ↔ cursor.Covers block := by
  constructor
  · exact fun all => all block (le_refl block)
  · rintro (below | ⟨rfl, complete⟩) earlier before
    · exact .inl (before.trans_lt below)
    · rcases before.lt_or_eq with strict | equal
      · exact .inl strict
      · exact .inr ⟨equal, complete⟩

/-- The legacy view is the largest block up to which everything is covered. -/
theorem CursorCell.load_isGreatest (cell : CursorCell) :
    match cell.load with
    | some block => IsGreatest {block | ∀ earlier ≤ block, ∃ cursor, cell = some cursor ∧ cursor.Covers earlier} block
    | none => ∀ block, ¬ ∀ earlier ≤ block, ∃ cursor, cell = some cursor ∧ cursor.Covers earlier := by
  cases cell with
  | none =>
      intro block covered
      obtain ⟨cursor, impossible, _⟩ := covered block (le_refl block)
      cases impossible
  | some cursor =>
      have covered : ∀ block, (∀ earlier ≤ block, ∃ other, some cursor = some other ∧ other.Covers earlier) ↔
          cursor.Covers block := by
        intro block
        rw [← covers_iff]
        simp
      obtain ⟨blockNumber, blockComplete, lastLog⟩ := cursor
      cases blockComplete with
      | true =>
          simp only [CursorCell.load, ↓reduceIte]
          refine ⟨(covered blockNumber).mpr (.inr ⟨rfl, rfl⟩), fun block holds => ?_⟩
          rcases (covered block).mp holds with below | ⟨rfl, _⟩
          · exact below.le
          · exact le_refl _
      | false =>
          by_cases genesis : blockNumber = 0
          · simp only [CursorCell.load, genesis, Bool.false_eq_true, ↓reduceIte]
            intro block holds
            rcases (covered block).mp (by simpa only [genesis] using holds) with below | ⟨_, complete⟩
            · exact absurd (genesis ▸ below) (by simp)
            · cases complete
          · simp only [CursorCell.load, genesis, Bool.false_eq_true, ↓reduceIte]
            refine ⟨(covered _).mpr (.inl ?_), fun block holds => ?_⟩
            · show blockNumber - 1 < blockNumber
              grind
            · rcases (covered block).mp holds with below | ⟨_, complete⟩
              · change block < blockNumber at below
                show block ≤ blockNumber - 1
                grind
              · cases complete

/-! ## The file -/

open StoreCall in
/-- The cursor file is a monotone cursor per name. -/
theorem fileBlockCursorStore_monotone {initial : CursorFile} (valid : initial.Valid)
    (calls : List StoreCall) :
    ∃ data, performAll initial calls = .ok data ∧
      (∀ name later, (∀ call ∈ later, ¬ call.Rewinds name) →
        ∀ current, FileBlockCursorStore.loadCursor name data = .ok (some current) →
          ∃ after next, performAll data later = .ok after ∧
            FileBlockCursorStore.loadCursor name after = .ok (some next) ∧ current.Le next) ∧
      (∀ name block, ∃ cell after, FileBlockCursorStore.loadCursor name data = .ok cell ∧
        FileBlockCursorStore.rewind name block data = .ok after ∧
        match cell with
        | none => after = data
        | some current =>
            (current.blockNumber < block → after = data) ∧
            (block ≤ current.blockNumber →
              FileBlockCursorStore.loadCursor name after = .ok (some ⟨block, false, none⟩) ∧
                EvmIndexCursor.Le ⟨block, false, none⟩ current)) ∧
      (∀ (call : StoreCall) name, name ≠ call.name → ∃ after, call.perform data = .ok after ∧
        FileBlockCursorStore.loadCursor name after = FileBlockCursorStore.loadCursor name data) ∧
      (∀ name, ∃ cell loaded, FileBlockCursorStore.loadCursor name data = .ok cell ∧
        FileBlockCursorStore.load name data = .ok loaded ∧
        match loaded with
        | some block => IsGreatest {block | ∀ earlier ≤ block,
            ∃ cursor, cell = some cursor ∧ cursor.Covers earlier} block
        | none => ∀ block, ¬ ∀ earlier ≤ block, ∃ cursor, cell = some cursor ∧ cursor.Covers earlier) ∧
      (∀ name cursor cell, FileBlockCursorStore.loadCursor name data = .ok cell →
        (∀ current, cell = some current → cursorAdvances current cursor = true) →
          ∃ after, FileBlockCursorStore.saveCursor name cursor data = .ok after ∧
            FileBlockCursorStore.loadCursor name after = .ok (some cursor)) := by
  obtain ⟨cells₀, holds₀⟩ := valid.holds
  obtain ⟨data, performed, holds⟩ := performAll_refines holds₀ calls
  generalize calls.foldl onCells cells₀ = cells at holds
  refine ⟨data, performed, ?_, ?_, ?_, ?_, ?_⟩
  · intro name later kept current loaded
    have held : cells name = some current := by
      rw [holds name, Except.ok.injEq] at loaded
      exact loaded
    obtain ⟨after, finished, afterHolds⟩ := performAll_refines holds later
    obtain ⟨next, nextHeld, ordered⟩ := foldl_onCells_le kept held
    exact ⟨after, next, finished, by rw [afterHolds name, nextHeld], ordered⟩
  · intro name block
    obtain ⟨after, rewound, afterHolds⟩ := FileBlockCursorStore.rewind_refines holds name block
    refine ⟨cells name, after, holds name, rewound, ?_⟩
    cases held : cells name with
    | none =>
        have unchanged := FileBlockCursorStore.rewind_unchanged holds name block
          (by simp [held])
        exact Except.ok.inj (rewound.symm.trans unchanged)
    | some current =>
        refine ⟨fun behind => ?_, fun reached => ⟨?_, ?_⟩⟩
        · have unchanged := FileBlockCursorStore.rewind_unchanged holds name block
            (by simpa [held] using behind)
          exact Except.ok.inj (rewound.symm.trans unchanged)
        · simp [afterHolds name, held, CursorCell.rewind, not_lt.mpr reached]
        · rcases reached.lt_or_eq with before | equal
          · exact .inl before
          · exact .inr ⟨equal, .inr ⟨rfl, trivial⟩⟩
  · intro call name different
    obtain ⟨after, finished, afterHolds⟩ := call.perform_refines holds
    refine ⟨after, finished, ?_⟩
    rw [afterHolds name, holds name, onCells, Function.update_of_ne different]
  · intro name
    exact ⟨cells name, _, holds name, FileBlockCursorStore.load_refines holds name,
      CursorCell.load_isGreatest (cells name)⟩
  · intro name cursor cell loaded advances
    obtain ⟨after, saved, afterHolds⟩ := FileBlockCursorStore.saveCursor_refines holds name cursor
    refine ⟨after, saved, ?_⟩
    rw [holds name, Except.ok.injEq] at loaded
    subst loaded
    rw [afterHolds name, Function.update_self]
    cases held : cells name with
    | none => rfl
    | some current => simp [CursorCell.saveCursor, advances current held]

/-- A file written before cursors had positions. -/
def legacyFile : CursorFile := [("events", .string "0x5")]

/-- A legacy entry is taken over, and an old block number does not replace what
was saved over it. -/
theorem fileBlockCursorStore_monotone_legacy :
    ∃ data, StoreCall.performAll legacyFile [.saveCursor "events" ⟨6, true, none⟩] = .ok data ∧
      ∃ after next, StoreCall.performAll data [.save "events" 4] = .ok after ∧
        FileBlockCursorStore.loadCursor "events" after = .ok (some next) ∧
        EvmIndexCursor.Le ⟨6, true, none⟩ next := by
  have valid : legacyFile.Valid := by
    intro name entry found
    by_cases same : name = "events"
    · subst same
      cases found
      exact ⟨⟨5, true, none⟩, by decide⟩
    · simp [legacyFile, List.lookup_cons, List.lookup_nil, beq_false_of_ne same] at found
  obtain ⟨data, performed, monotone, _⟩ :=
    fileBlockCursorStore_monotone valid [.saveCursor "events" ⟨6, true, none⟩]
  refine ⟨data, performed, monotone "events" [.save "events" 4] ?_ ⟨6, true, none⟩ ?_⟩
  · intro call member
    cases List.mem_singleton.mp member
    exact id
  · cases performed
    rfl

end Polymarket.Evm
