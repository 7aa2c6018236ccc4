import Polymarket.Pagination.Paginator

/-! What one call of `next_page` does under each strategy: a request takes one page
off a budget and asks for something new, and a final answer settles the paginator. -/

set_option autoImplicit false

namespace Polymarket.Pagination

variable {T : Type}

namespace Paginator

/-- What a settled paginator keeps answering. -/
def settledResult (paginator : Paginator T) : Option (Result (Option (List T))) :=
  match paginator.error with
  | some error => some (.error error)
  | none => if paginator.done then some (.ok none) else none

/-- How many pages a paginator may still request. -/
def budget (paginator : Paginator T) : Nat :=
  if paginator.settledResult.isSome then 0
  else match paginator.strategy with
    | .offset => (paginator.maxOffset.toNat - paginator.offset.toNat) / paginator.limit.toNat + 1
    | .numbered => maxPages - paginator.pagesStarted
    | .cursor | .keyset => maxPages - paginator.cursor.pagesStarted

/-- An offset paginator that goes on is within its cap, and only an empty cursor makes
a first page without one. -/
structure Good (paginator : Paginator T) : Prop where
  firstPage : paginator.cursor.firstPageWithoutCursor = true → paginator.cursor.cursor = ""
  limit : paginator.strategy = .offset → 0 < paginator.limit.toNat
  within : paginator.strategy = .offset → paginator.settledResult = none →
    paginator.offset.toNat ≤ paginator.maxOffset.toNat

/-- A request that is not made again. -/
def Spent (paginator : Paginator T) (request : PageRequest) : Prop :=
  match paginator.strategy with
  | .cursor | .keyset => request.cursor = "" ∨ request.cursor ∈ paginator.cursor.seenCursors
  | .offset => paginator.settledResult.isSome ∨ request.offset.toNat < paginator.offset.toNat
  | .numbered => paginator.settledResult.isSome ∨ request.page.toNat < paginator.page.toNat

end Paginator

/-- Two requests for the same page: a first page without a cursor has no target. -/
def SameTarget (strategy : Strategy) (left right : PageRequest) : Prop :=
  match strategy with
  | .cursor | .keyset => right.cursor ≠ "" ∧ left.cursor = right.cursor
  | .offset => left.offset = right.offset
  | .numbered => left.page = right.page

def Final (result : Result (Option (List T))) : Prop := result = .ok none ∨ ∃ error, result = .error error

/-- What no call of `next_page` changes. -/
structure SameShape (before after : Paginator T) : Prop where
  strategy : after.strategy = before.strategy
  limit : after.limit = before.limit
  maxOffset : after.maxOffset = before.maxOffset
  buffer : after.buffer = before.buffer

open Paginator in
/-- What one call of `next_page` does. -/
structure Proceeds (paginator : Paginator T) (step : PageStep T) : Prop where
  shape : SameShape paginator step.paginator
  good : step.paginator.Good
  final : Final step.result → step.paginator.settledResult = some step.result
  page : ∀ items, step.result = .ok (some items) → step.request.isSome = true
  budget : step.paginator.budget + step.request.toList.length ≤ paginator.budget
  kept : ∀ request, paginator.Spent request → step.paginator.Spent request
  spent : ∀ request, step.request = some request → step.paginator.Spent request
  fresh : ∀ request, step.request = some request → ∀ earlier, paginator.Spent earlier →
    ¬SameTarget paginator.strategy earlier request
  within : ∀ request, step.request = some request → paginator.strategy = .offset →
    request.offset = paginator.offset ∧ paginator.offset.toNat ≤ paginator.maxOffset.toNat

namespace Paginator

theorem nextPage_settled {paginator : Paginator T} {result : Result (Option (List T))}
    (settled : paginator.settledResult = some result) (fetch : Fetch T) :
    paginator.nextPage fetch = ⟨result, paginator, none⟩ := by
  unfold settledResult at settled
  unfold nextPage
  cases failed : paginator.error with
  | some error =>
      rw [failed] at settled
      cases settled
      rfl
  | none =>
      rw [failed] at settled
      dsimp only at settled ⊢
      split at settled
      · next done =>
        cases settled
        rw [if_pos done]
      · cases settled

theorem proceeds_settled {paginator : Paginator T} (good : paginator.Good) {result : Result (Option (List T))}
    (settled : paginator.settledResult = some result) (final : Final result) :
    Proceeds paginator ⟨result, paginator, none⟩ := by
  constructor
  · exact ⟨rfl, rfl, rfl, rfl⟩
  · exact good
  · intro _
    exact settled
  · intro items page
    cases page
    obtain impossible | ⟨_, impossible⟩ := final
    · cases impossible
    · cases impossible
  · exact le_rfl
  · intro request spent
    exact spent
  · intro request impossible
    cases impossible
  · intro request impossible
    cases impossible
  · intro request impossible
    cases impossible

theorem settledResult_final {paginator : Paginator T} {result : Result (Option (List T))}
    (settled : paginator.settledResult = some result) : Final result := by
  unfold settledResult at settled
  split at settled
  · cases settled
    exact .inr ⟨_, rfl⟩
  · split at settled
    · cases settled
      exact .inl rfl
    · cases settled

theorem settledResult_none {paginator : Paginator T} (open_ : paginator.settledResult = none) :
    paginator.error = none ∧ paginator.done = false := by
  unfold settledResult at open_
  split at open_
  · cases open_
  · next failed =>
    split at open_
    · cases open_
    · next undone => exact ⟨failed, by simpa using undone⟩

theorem budget_settled {paginator : Paginator T} (settled : paginator.settledResult.isSome = true) :
    paginator.budget = 0 := if_pos settled

/-- A call that fails for good. -/
theorem proceeds_failed {paginator after : Paginator T} {error : SdkError} {request : Option PageRequest}
    (shape : SameShape paginator after)
    (firstPage : after.cursor.firstPageWithoutCursor = true → after.cursor.cursor = "")
    (good : paginator.Good) (budget : request.toList.length ≤ paginator.budget)
    (kept : ∀ request, paginator.Spent request → (after.fail error request).paginator.Spent request)
    (spent : ∀ made, request = some made → (after.fail error request).paginator.Spent made)
    (fresh : ∀ made, request = some made → ∀ earlier, paginator.Spent earlier →
      ¬SameTarget paginator.strategy earlier made)
    (within : ∀ made, request = some made → paginator.strategy = .offset →
      made.offset = paginator.offset ∧ paginator.offset.toNat ≤ paginator.maxOffset.toNat) :
    Proceeds paginator (after.fail error request) := by
  constructor
  · exact ⟨shape.strategy, shape.limit, shape.maxOffset, shape.buffer⟩
  · constructor
    · exact firstPage
    · intro isOffset
      change 0 < after.limit.toNat
      rw [shape.limit]
      exact good.limit (shape.strategy.symm.trans isOffset)
    · intro _ impossible
      cases impossible
  · intro _
    rfl
  · intro items impossible
    cases impossible
  · have spentBudget : (after.fail error request).paginator.budget = 0 := budget_settled rfl
    rw [spentBudget, Nat.zero_add]
    exact budget
  · exact kept
  · exact spent
  · exact fresh
  · exact within

theorem budget_open {paginator : Paginator T} (open_ : paginator.settledResult = none) :
    paginator.budget = match paginator.strategy with
      | .offset => (paginator.maxOffset.toNat - paginator.offset.toNat) / paginator.limit.toNat + 1
      | .numbered => maxPages - paginator.pagesStarted
      | .cursor | .keyset => maxPages - paginator.cursor.pagesStarted :=
  if_neg (by simp [open_])

/-! ## Offset pages -/

section Offset

variable {paginator : Paginator T} (strategy : paginator.strategy = .offset)
  (open_ : paginator.settledResult = none) (good : paginator.Good)

include strategy open_

theorem spent_offset {request : PageRequest} :
    paginator.Spent request ↔ request.offset.toNat < paginator.offset.toNat := by
  unfold Spent
  rw [strategy, open_]
  simp

theorem budget_offset :
    paginator.budget = (paginator.maxOffset.toNat - paginator.offset.toNat) / paginator.limit.toNat + 1 := by
  rw [budget_open open_, strategy]

theorem fresh_offset {earlier : PageRequest} (spent : paginator.Spent earlier) (request : PageRequest)
    (same : request.offset = paginator.offset) : ¬SameTarget paginator.strategy earlier request := by
  rw [spent_offset strategy open_] at spent
  rw [strategy]
  intro equal
  change earlier.offset = request.offset at equal
  rw [equal, same] at spent
  exact lt_irrefl _ spent

include good

/-- A full page that is not at the cap moves the offset by the limit. -/
theorem offset_moves {counted : UInt64} (full : ¬counted < paginator.limit) (notMore : ¬paginator.limit < counted)
    (below : ¬paginator.maxOffset - paginator.offset < paginator.limit) :
    ¬uint64Max - paginator.offset < counted ∧
      (paginator.offset + counted).toNat = paginator.offset.toNat + paginator.limit.toNat ∧
      paginator.offset.toNat + paginator.limit.toNat ≤ paginator.maxOffset.toNat := by
  have within := good.within strategy open_
  have maximum := paginator.maxOffset.toNat_lt
  have room : (paginator.maxOffset - paginator.offset).toNat =
      paginator.maxOffset.toNat - paginator.offset.toNat :=
    UInt64.toNat_sub_of_le _ _ (UInt64.le_iff_toNat_le.mpr within)
  have spare : (uint64Max - paginator.offset).toNat = 2 ^ 64 - 1 - paginator.offset.toNat := by
    rw [UInt64.toNat_sub_of_le _ _ (UInt64.le_iff_toNat_le.mpr (by rw [toNat_uint64Max]; omega)), toNat_uint64Max]
  rw [UInt64.lt_iff_toNat_lt] at full notMore below
  rw [room] at below
  rw [UInt64.lt_iff_toNat_lt, spare, UInt64.toNat_add, Nat.mod_eq_of_lt (by omega)]
  omega

theorem proceeds_offset_failed (error : SdkError) :
    Proceeds paginator
      (paginator.fail error (some { offset := paginator.offset, limit := paginator.limit })) := by
  apply proceeds_failed ⟨rfl, rfl, rfl, rfl⟩ good.firstPage good
  · rw [budget_offset strategy open_]
    exact Nat.le_add_left ..
  · intro request _
    unfold Spent
    rw [fail, strategy]
    exact .inl rfl
  · intro made _
    unfold Spent
    rw [fail, strategy]
    exact .inl rfl
  · intro made same earlier spent
    cases same
    exact fresh_offset strategy open_ spent _ rfl
  · intro made same _
    cases same
    exact ⟨rfl, good.within strategy open_⟩

/-- A page that ends the pagination, or moves the offset by the limit. -/
theorem proceeds_offset_page {items : List T} {after : Paginator T} (shape : SameShape paginator after)
    (sameCursor : after.cursor = paginator.cursor)
    (ends : after.settledResult.isSome = true ∨
      (after.offset.toNat = paginator.offset.toNat + paginator.limit.toNat ∧
        paginator.offset.toNat + paginator.limit.toNat ≤ paginator.maxOffset.toNat)) :
    Proceeds paginator
      ⟨.ok (some items), after, some { offset := paginator.offset, limit := paginator.limit }⟩ := by
  have limit := good.limit strategy
  have within := good.within strategy open_
  have isOffset : after.strategy = .offset := shape.strategy.trans strategy
  have passed (request : PageRequest) (reached : request.offset.toNat ≤ paginator.offset.toNat) :
      after.Spent request := by
    unfold Spent
    rw [isOffset]
    obtain settled | ⟨moved, _⟩ := ends
    · exact .inl settled
    · right
      omega
  constructor
  · exact shape
  · constructor
    · rw [sameCursor]
      exact good.firstPage
    · intro _
      rw [shape.limit]
      exact limit
    · intro _ open'
      obtain settled | ⟨moved, bounded⟩ := ends
      · rw [open'] at settled
        cases settled
      · rw [shape.maxOffset, moved]
        exact bounded
  · intro impossible
    obtain impossible | ⟨_, impossible⟩ := impossible
    · cases impossible
    · cases impossible
  · intro _ _
    rfl
  · change after.budget + 1 ≤ paginator.budget
    rw [budget_offset strategy open_]
    cases settled : after.settledResult with
    | some result =>
        rw [budget_settled (by rw [settled]; rfl)]
        exact Nat.le_add_left ..
    | none =>
        obtain impossible | ⟨moved, bounded⟩ := ends
        · rw [settled] at impossible
          cases impossible
        · rw [budget_offset isOffset settled, shape.maxOffset, shape.limit, moved]
          have less : paginator.maxOffset.toNat - paginator.offset.toNat =
              paginator.maxOffset.toNat - (paginator.offset.toNat + paginator.limit.toNat) +
                paginator.limit.toNat := by omega
          rw [less, Nat.add_div_right _ limit]
  · intro request spent
    rw [spent_offset strategy open_] at spent
    exact passed request spent.le
  · intro made same
    cases same
    exact passed _ le_rfl
  · intro made same earlier spent
    cases same
    exact fresh_offset strategy open_ spent _ rfl
  · intro made same _
    cases same
    exact ⟨rfl, within⟩

theorem proceeds_offset (fetch : Fetch T) : Proceeds paginator (paginator.nextOffsetPage fetch) := by
  unfold nextOffsetPage
  dsimp only
  cases answered : fetch { offset := paginator.offset, limit := paginator.limit } with
  | error error => exact proceeds_offset_failed strategy open_ good error
  | ok page =>
      dsimp only
      generalize page.counted.getD (UInt64.ofNat page.items.length) = counted
      split
      · exact proceeds_offset_failed strategy open_ good _
      · next counts =>
        rw [not_or] at counts
        have live := settledResult_none open_
        apply proceeds_offset_page strategy open_ good
        · exact ⟨rfl, rfl, rfl, rfl⟩
        · rfl
        · by_cases short : counted < paginator.limit
          · left
            unfold settledResult
            simp [live.1, short]
          · by_cases cap : paginator.maxOffset - paginator.offset < paginator.limit
            · left
              unfold settledResult
              simp [live.1, cap, short]
            · right
              obtain ⟨fits, moved, bounded⟩ := offset_moves strategy open_ good short counts.1 cap
              dsimp only
              rw [if_neg fits]
              exact ⟨moved, bounded⟩

end Offset

/-! ## Numbered pages -/

section Numbered

variable {paginator : Paginator T} (strategy : paginator.strategy = .numbered)
  (open_ : paginator.settledResult = none) (good : paginator.Good)

include strategy

theorem budget_numbered (live : paginator.settledResult = none) :
    paginator.budget = maxPages - paginator.pagesStarted := by
  rw [budget_open live, strategy]

include good

theorem good_numbered {after : Paginator T} (sameStrategy : after.strategy = paginator.strategy)
    (sameCursor : after.cursor = paginator.cursor) : after.Good := by
  have notOffset : after.strategy ≠ .offset := by
    rw [sameStrategy, strategy]
    decide
  constructor
  · rw [sameCursor]
    exact good.firstPage
  · intro impossible
    exact absurd impossible notOffset
  · intro impossible
    exact absurd impossible notOffset

include open_

omit good in
theorem spent_numbered {request : PageRequest} :
    paginator.Spent request ↔ request.page.toNat < paginator.page.toNat := by
  unfold Spent
  rw [strategy, open_]
  simp

theorem proceeds_numbered_request {step : PageStep T} (shape : SameShape paginator step.paginator)
    (sameCursor : step.paginator.cursor = paginator.cursor)
    (requested : step.request = some { limit := paginator.limit, page := paginator.page })
    (started : paginator.pagesStarted < maxPages)
    (counted : step.paginator.pagesStarted = paginator.pagesStarted + 1)
    (final : Final step.result → step.paginator.settledResult = some step.result)
    (ends : step.paginator.settledResult.isSome = true ∨
      step.paginator.page.toNat = paginator.page.toNat + 1) : Proceeds paginator step := by
  have isNumbered : step.paginator.strategy = .numbered := shape.strategy.trans strategy
  have passed (request : PageRequest) (reached : request.page.toNat ≤ paginator.page.toNat) :
      step.paginator.Spent request := by
    unfold Spent
    rw [isNumbered]
    obtain settled | moved := ends
    · exact .inl settled
    · right
      omega
  constructor
  · exact shape
  · exact good_numbered strategy good shape.strategy sameCursor
  · exact final
  · intro _ _
    rw [requested]
    rfl
  · rw [requested, budget_numbered strategy open_]
    change step.paginator.budget + 1 ≤ maxPages - paginator.pagesStarted
    cases settled : step.paginator.settledResult with
    | some result =>
        rw [budget_settled (by rw [settled]; rfl)]
        omega
    | none =>
        rw [budget_numbered isNumbered settled, counted]
        omega
  · intro request spent
    rw [spent_numbered strategy open_] at spent
    exact passed request spent.le
  · intro made same
    rw [requested] at same
    cases same
    exact passed _ le_rfl
  · intro made same earlier spent
    rw [requested] at same
    cases same
    rw [spent_numbered strategy open_] at spent
    rw [strategy]
    intro equal
    change earlier.page = paginator.page at equal
    rw [equal] at spent
    exact lt_irrefl _ spent
  · intro made _ impossible
    rw [strategy] at impossible
    cases impossible

omit open_ in
theorem proceeds_numbered_failed (error : SdkError) : Proceeds paginator (paginator.fail error none) := by
  apply proceeds_failed ⟨rfl, rfl, rfl, rfl⟩ good.firstPage good
  · exact Nat.zero_le _
  · intro request _
    unfold Spent
    rw [fail, strategy]
    exact .inl rfl
  · intro made impossible
    cases impossible
  · intro made impossible
    cases impossible
  · intro made impossible
    cases impossible

theorem proceeds_numbered (fetch : Fetch T) : Proceeds paginator (paginator.nextNumberedPage fetch) := by
  unfold nextNumberedPage
  split
  · exact proceeds_numbered_failed strategy good _
  · next started =>
    split
    · exact proceeds_numbered_failed strategy good _
    · next more =>
      rw [not_le] at started
      dsimp only
      cases answered : fetch { limit := paginator.limit, page := paginator.page } with
      | error error =>
          apply proceeds_numbered_request strategy open_ good
          · exact ⟨rfl, rfl, rfl, rfl⟩
          · rfl
          · rfl
          · exact started
          · rfl
          · intro _
            rfl
          · exact .inl rfl
      | ok page =>
          apply proceeds_numbered_request strategy open_ good
          · exact ⟨rfl, rfl, rfl, rfl⟩
          · rfl
          · rfl
          · exact started
          · rfl
          · intro impossible
            obtain impossible | ⟨_, impossible⟩ := impossible
            · cases impossible
            · cases impossible
          · right
            have bounded := paginator.page.toNat_lt
            have different : paginator.page.toNat ≠ 2 ^ 64 - 1 := fun same =>
              more (UInt64.toNat_inj.mp (same.trans toNat_uint64Max.symm))
            change (paginator.page + 1).toNat = _
            rw [UInt64.toNat_add, UInt64.toNat_one, Nat.mod_eq_of_lt (by omega)]

end Numbered

/-! ## Cursor and keyset pages -/

end Paginator

/-- A page may be requested: its cursor is recorded and was not before. -/
theorem OpaqueCursorPagination.beginPage_true {pagination started : OpaqueCursorPagination}
    (firstPage : pagination.firstPageWithoutCursor = true → pagination.cursor = "")
    (begins : pagination.beginPage = (.ok true, started)) :
    pagination.pagesStarted < maxPages ∧ started.pagesStarted = pagination.pagesStarted + 1 ∧
      started.cursor = pagination.cursor ∧ started.endCursor = pagination.endCursor ∧
      started.firstPageWithoutCursor = false ∧
      (∀ cursor ∈ pagination.seenCursors, cursor ∈ started.seenCursors) ∧
      (pagination.cursor = "" ∨
        (pagination.cursor ∉ pagination.seenCursors ∧ pagination.cursor ∈ started.seenCursors)) := by
  unfold beginPage at begins
  dsimp only at begins
  split at begins
  · cases begins
  · split at begins
    · cases begins
    · next few =>
      split at begins
      · cases begins
      · next unseen =>
        cases begins
        refine ⟨not_le.mp few, rfl, rfl, rfl, rfl, ?_, ?_⟩
        · intro cursor seen
          dsimp only
          split
          · exact seen
          · exact List.mem_cons_of_mem _ seen
        · cases first : pagination.firstPageWithoutCursor with
          | true => exact .inl (firstPage first)
          | false =>
              rw [first] at unseen
              right
              constructor
              · simpa using unseen
              · simp

theorem OpaqueCursorPagination.beginPage_other {pagination started : OpaqueCursorPagination}
    {outcome : Except String Bool} (begins : pagination.beginPage = (outcome, started)) (refused : outcome ≠ .ok true) :
    started.firstPageWithoutCursor = false ∧ started.seenCursors = pagination.seenCursors := by
  unfold beginPage at begins
  dsimp only at begins
  split at begins
  · cases begins
    exact ⟨rfl, rfl⟩
  · split at begins
    · cases begins
      exact ⟨rfl, rfl⟩
    · split at begins
      · cases begins
        exact ⟨rfl, rfl⟩
      · cases begins
        exact absurd rfl refused

theorem OpaqueCursorPagination.advance_ok {pagination advanced : OpaqueCursorPagination} {nextCursor : String}
    (advances : pagination.advance nextCursor = .ok advanced) :
    advanced.pagesStarted = pagination.pagesStarted ∧ advanced.seenCursors = pagination.seenCursors ∧
      advanced.firstPageWithoutCursor = pagination.firstPageWithoutCursor := by
  unfold advance at advances
  split at advances
  · cases advances
    exact ⟨rfl, rfl, rfl⟩
  · split at advances
    · cases advances
    · cases advances
      exact ⟨rfl, rfl, rfl⟩

namespace Paginator

section Cursor

variable {paginator : Paginator T} (strategy : paginator.strategy = .cursor ∨ paginator.strategy = .keyset)
  (open_ : paginator.settledResult = none) (good : paginator.Good)

include strategy

theorem spent_cursor {request : PageRequest} :
    paginator.Spent request ↔ request.cursor = "" ∨ request.cursor ∈ paginator.cursor.seenCursors := by
  unfold Spent
  obtain isCursor | isKeyset := strategy
  · rw [isCursor]
  · rw [isKeyset]

theorem not_offset : paginator.strategy ≠ .offset := by
  obtain isCursor | isKeyset := strategy
  · rw [isCursor]
    decide
  · rw [isKeyset]
    decide

theorem budget_cursor (live : paginator.settledResult = none) :
    paginator.budget = maxPages - paginator.cursor.pagesStarted := by
  rw [budget_open live]
  obtain isCursor | isKeyset := strategy
  · rw [isCursor]
  · rw [isKeyset]

theorem sameTarget_cursor {left right : PageRequest} :
    SameTarget paginator.strategy left right ↔ right.cursor ≠ "" ∧ left.cursor = right.cursor := by
  obtain isCursor | isKeyset := strategy
  · rw [isCursor, SameTarget]
  · rw [isKeyset, SameTarget]

theorem good_cursor {after : Paginator T} (sameStrategy : after.strategy = paginator.strategy)
    (noFirstPage : after.cursor.firstPageWithoutCursor = false) : after.Good := by
  have notOffset := not_offset strategy
  rw [← sameStrategy] at notOffset
  constructor
  · rw [noFirstPage]
    intro impossible
    cases impossible
  · intro impossible
    exact absurd impossible notOffset
  · intro impossible
    exact absurd impossible notOffset

/-- No page is requested any more. -/
theorem proceeds_cursor_refused {step : PageStep T} (shape : SameShape paginator step.paginator)
    (noFirstPage : step.paginator.cursor.firstPageWithoutCursor = false)
    (sameSeen : step.paginator.cursor.seenCursors = paginator.cursor.seenCursors)
    (unrequested : step.request = none) (settled : step.paginator.settledResult = some step.result) :
    Proceeds paginator step := by
  constructor
  · exact shape
  · exact good_cursor strategy shape.strategy noFirstPage
  · intro _
    exact settled
  · intro items page
    have final := settledResult_final settled
    rw [page] at final
    obtain impossible | ⟨_, impossible⟩ := final
    · cases impossible
    · cases impossible
  · rw [budget_settled (by rw [settled]; rfl), unrequested]
    exact Nat.zero_le _
  · intro request spent
    rw [spent_cursor strategy] at spent
    rw [spent_cursor (by rw [shape.strategy]; exact strategy), sameSeen]
    exact spent
  · intro made impossible
    rw [unrequested] at impossible
    cases impossible
  · intro made impossible
    rw [unrequested] at impossible
    cases impossible
  · intro made impossible
    rw [unrequested] at impossible
    cases impossible

include open_ good

theorem proceeds_cursor_request {started : OpaqueCursorPagination} {step : PageStep T}
    (begins : paginator.cursor.beginPage = (.ok true, started))
    (shape : SameShape paginator step.paginator)
    (requested : step.request = some { cursor := started.cursor, limit := paginator.limit })
    (samePages : step.paginator.cursor.pagesStarted = started.pagesStarted)
    (sameSeen : step.paginator.cursor.seenCursors = started.seenCursors)
    (sameFirst : step.paginator.cursor.firstPageWithoutCursor = started.firstPageWithoutCursor)
    (final : Final step.result → step.paginator.settledResult = some step.result) : Proceeds paginator step := by
  obtain ⟨few, counted, sameCursor, _, noFirst, seen, recorded⟩ :=
    OpaqueCursorPagination.beginPage_true good.firstPage begins
  have afterStrategy : step.paginator.strategy = .cursor ∨ step.paginator.strategy = .keyset := by
    rw [shape.strategy]
    exact strategy
  constructor
  · exact shape
  · exact good_cursor strategy shape.strategy (sameFirst.trans noFirst)
  · exact final
  · intro _ _
    rw [requested]
    rfl
  · rw [requested, budget_cursor strategy open_]
    change step.paginator.budget + 1 ≤ maxPages - paginator.cursor.pagesStarted
    cases settled : step.paginator.settledResult with
    | some result =>
        rw [budget_settled (by rw [settled]; rfl)]
        omega
    | none =>
        rw [budget_cursor afterStrategy settled, samePages, counted]
        omega
  · intro request spent
    rw [spent_cursor strategy] at spent
    rw [spent_cursor afterStrategy, sameSeen]
    exact spent.imp_right (seen _)
  · intro made same
    rw [requested] at same
    cases same
    rw [spent_cursor afterStrategy, sameSeen, sameCursor]
    exact recorded.imp_right And.right
  · intro made same earlier spent
    rw [requested] at same
    cases same
    rw [spent_cursor strategy] at spent
    rw [sameTarget_cursor strategy, sameCursor]
    rintro ⟨nonempty, equal⟩
    dsimp only at equal
    obtain empty | ⟨unseen, _⟩ := recorded
    · exact nonempty empty
    · rw [equal] at spent
      exact spent.elim nonempty unseen
  · intro made _ impossible
    exact absurd impossible (not_offset strategy)

theorem proceeds_cursor (fetch : Fetch T) : Proceeds paginator (paginator.nextCursorPage fetch) := by
  have live := settledResult_none open_
  unfold nextCursorPage
  cases begins : paginator.cursor.beginPage with
  | mk outcome started =>
      cases outcome with
      | error text =>
          obtain ⟨noFirst, sameSeen⟩ := OpaqueCursorPagination.beginPage_other begins (by simp)
          exact proceeds_cursor_refused strategy ⟨rfl, rfl, rfl, rfl⟩ noFirst sameSeen rfl rfl
      | ok mayBegin =>
          cases mayBegin with
          | false =>
              obtain ⟨noFirst, sameSeen⟩ := OpaqueCursorPagination.beginPage_other begins (by simp)
              apply proceeds_cursor_refused strategy ⟨rfl, rfl, rfl, rfl⟩ noFirst sameSeen rfl
              unfold settledResult
              simp [live.1]
          | true =>
              dsimp only
              cases answered : fetch { cursor := started.cursor, limit := paginator.limit } with
              | error error =>
                  apply proceeds_cursor_request strategy open_ good begins ⟨rfl, rfl, rfl, rfl⟩ rfl rfl rfl rfl
                  intro _
                  rfl
              | ok page =>
                  have notFinal {after : Paginator T} : Final (.ok (some page.items)) →
                      after.settledResult = some (.ok (some page.items)) := by
                    intro impossible
                    obtain impossible | ⟨_, impossible⟩ := impossible
                    · cases impossible
                    · cases impossible
                  dsimp only
                  cases advances : started.advance page.nextCursor with
                  | error text =>
                      exact proceeds_cursor_request strategy open_ good begins ⟨rfl, rfl, rfl, rfl⟩ rfl rfl rfl rfl notFinal
                  | ok advanced =>
                      obtain ⟨samePages, sameSeen, sameFirst⟩ := OpaqueCursorPagination.advance_ok advances
                      exact proceeds_cursor_request strategy open_ good begins ⟨rfl, rfl, rfl, rfl⟩ rfl samePages sameSeen sameFirst
                        notFinal

end Cursor

theorem proceeds {paginator : Paginator T} (good : paginator.Good) (fetch : Fetch T) :
    Proceeds paginator (paginator.nextPage fetch) := by
  cases settled : paginator.settledResult with
  | some result =>
      rw [nextPage_settled settled]
      exact proceeds_settled good settled (settledResult_final settled)
  | none =>
      obtain ⟨unfailed, undone⟩ := settledResult_none settled
      unfold nextPage
      rw [unfailed]
      dsimp only
      rw [undone, if_neg (by decide)]
      cases strategy : paginator.strategy with
      | offset => exact proceeds_offset strategy settled good fetch
      | numbered => exact proceeds_numbered strategy settled good fetch
      | cursor => exact proceeds_cursor (.inl strategy) settled good fetch
      | keyset => exact proceeds_cursor (.inr strategy) settled good fetch

end Paginator

end Polymarket.Pagination
