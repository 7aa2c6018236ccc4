import Polymarket.Pagination.Following

/-! Resuming equals continuing: a paginator made from a resume token drains to what the
one that gave the token would have returned. -/

set_option autoImplicit false

namespace Polymarket.Pagination

variable {T : Type}

/-- The strategy and limits a paginator is made again with. -/
inductive Recipe where
  | cursor (endpoint endCursor : String)
  | keyset (endpoint : String) (limit : UInt64)
  | numbered (endpoint : String) (limit : UInt64)
  | offset (endpoint : String) (limit maxOffset : UInt64)

def Recipe.build (recipe : Recipe) (token : PageRequest) : Except CppError (Paginator T) :=
  match recipe with
  | .cursor endpoint endCursor => cursorPaginator endpoint token.cursor endCursor
  | .keyset endpoint limit => keysetPaginator endpoint limit token
  | .numbered endpoint limit => numberedPaginator endpoint limit token
  | .offset endpoint limit maxOffset => offsetPaginator endpoint limit maxOffset token.offset

/-- A fixed list of row groups, no longer than a size_t counts. -/
structure RowGroups (T : Type) where
  groups : List (List T)
  fits : groups.length < 2 ^ 64

namespace RowGroups

def slice (rows : RowGroups T) (request : PageRequest) : List (List T) :=
  (rows.groups.drop request.offset.toNat).take request.limit.toNat

/-- Every answer holds a slice of the groups and counts its rows. -/
def ServedBy (rows : RowGroups T) (fetch : Fetch T) : Prop :=
  ∀ request, ∃ answer, fetch request = .ok answer ∧ answer.items = (rows.slice request).flatten ∧
    answer.counted = some (UInt64.ofNat (rows.slice request).length)

theorem slice_length (rows : RowGroups T) (request : PageRequest) :
    (UInt64.ofNat (rows.slice request).length).toNat =
      min request.limit.toNat (rows.groups.length - request.offset.toNat) := by
  have bounded := request.limit.toNat_lt
  rw [UInt64.toNat_ofNat', slice, List.length_take, List.length_drop]
  exact Nat.mod_eq_of_lt (by omega)

end RowGroups

/-- Offset pages are slices of one list; other pages may be anything. -/
def Recipe.Serves (recipe : Recipe) (fetch : Fetch T) : Prop :=
  match recipe with
  | .offset .. => ∃ rows : RowGroups T, rows.ServedBy fetch
  | .cursor .. | .keyset .. | .numbered .. => True

/-- The items of all pages among these results. -/
def returnedItems (results : List (Result (Option (List T)))) : List T :=
  results.flatMap fun
    | .ok (some batch) => batch
    | .ok none | .error _ => []

theorem returnedItems_append (results : List (Result (Option (List T)))) (batch : List T) :
    returnedItems (results ++ [.ok (some batch)]) = returnedItems results ++ batch := by
  unfold returnedItems
  rw [List.flatMap_append, List.flatMap_singleton]

theorem returnedItems_append_none (results : List (Result (Option (List T)))) :
    returnedItems (results ++ [.ok none]) = returnedItems results := by
  unfold returnedItems
  rw [List.flatMap_append, List.flatMap_singleton, List.append_nil]

section Resume

variable {fetch : Fetch T}

theorem Drains.ended_stays {paginator : Paginator T} (ended : (paginator.nextPage fetch).result = .ok none) :
    Drains fetch (paginator.nextPage fetch).paginator [] := by
  have unfailed := Paginator.unfailed_of_ok ended
  cases done : paginator.done with
  | true =>
      rw [Paginator.nextPage_done unfailed done]
      exact .done unfailed done
  | false =>
      have stops (strategy : paginator.strategy = .cursor ∨ paginator.strategy = .keyset) :
          Drains fetch (paginator.nextPage fetch).paginator [] := by
        rw [Paginator.nextPage_cursor strategy unfailed done] at ended ⊢
        obtain ⟨stopped, begins⟩ := Paginator.nextCursorPage_none ended
        rw [Paginator.nextCursorPage_ended begins]
        exact .done unfailed rfl
      cases strategy : paginator.strategy with
      | cursor => exact stops (.inl strategy)
      | keyset => exact stops (.inr strategy)
      | offset =>
          rw [Paginator.nextPage_offset strategy unfailed done] at ended
          obtain ⟨_, _, _, impossible⟩ := Paginator.nextOffsetPage_ok ended
          cases impossible
      | numbered =>
          rw [Paginator.nextPage_numbered strategy unfailed done] at ended
          obtain ⟨_, _, _, _, impossible⟩ := Paginator.nextNumberedPage_ok ended
          cases impossible

/-- What is left after some calls, and a paginator made from the token that drains to it. -/
structure Resumes (fetch : Fetch T) (recipe : Recipe) (all : List T) (run : PageRun T) (rest : List T)
    (resumed : Paginator T) : Prop where
  continues : Drains fetch run.paginator rest
  whole : all = returnedItems run.results ++ rest
  made : recipe.build run.paginator.resumeToken = .ok resumed
  resumes : Drains fetch resumed rest

/-- An invariant of the calls that return no error is enough. -/
theorem resumes_of_invariant {recipe : Recipe} (Reached : Paginator T → Prop)
    (stays : ∀ paginator outcome, Reached paginator → (paginator.nextPage fetch).result = .ok outcome →
      (paginator.nextPage fetch).paginator.error = none → Reached (paginator.nextPage fetch).paginator)
    (resumes : ∀ paginator rest, Reached paginator → Drains fetch paginator rest →
      ∃ resumed, recipe.build paginator.resumeToken = .ok resumed ∧ Drains fetch resumed rest)
    {paginator : Paginator T} (reached : Reached paginator) {all : List T} (drains : Drains fetch paginator all)
    (calls : Nat) : ∃ rest resumed, Resumes fetch recipe all (pageRun (fun _ => fetch) paginator calls) rest resumed := by
  have holds : ∃ rest, Drains fetch (pageRun (fun _ => fetch) paginator calls).paginator rest ∧
      all = returnedItems (pageRun (fun _ => fetch) paginator calls).results ++ rest ∧
      Reached (pageRun (fun _ => fetch) paginator calls).paginator := by
    induction calls with
    | zero => exact ⟨all, drains, rfl, reached⟩
    | succ calls ih =>
        obtain ⟨rest, left, whole, here⟩ := ih
        rw [pageRun]
        dsimp only
        cases left with
        | ended returned =>
            have stopped := Drains.ended_stays returned
            refine ⟨[], stopped, ?_, stays _ _ here returned stopped.unfailed⟩
            rw [returned, returnedItems_append_none]
            exact whole
        | @page _ batch rest returned left =>
            refine ⟨rest, left, ?_, stays _ _ here returned left.unfailed⟩
            rw [returned, returnedItems_append, List.append_assoc]
            exact whole
  obtain ⟨rest, left, whole, here⟩ := holds
  obtain ⟨resumed, made, again⟩ := resumes _ _ here left
  exact ⟨rest, resumed, left, whole, made, again⟩

/-! ## Cursor and keyset tokens -/

structure CursorReached (endCursor : String) (paginator : Paginator T) : Prop where
  strategy : paginator.strategy = .cursor
  limit : paginator.limit = 0
  endCursor : paginator.cursor.endCursor = endCursor
  notFirst : paginator.cursor.firstPageWithoutCursor = false
  ended : paginator.done = true → paginator.cursor.exhausted = true

/-- The first page without a cursor is told by its empty cursor. -/
structure KeysetReached (limit : UInt64) (paginator : Paginator T) : Prop where
  strategy : paginator.strategy = .keyset
  limit : paginator.limit = limit
  endCursor : paginator.cursor.endCursor = ""
  first : paginator.done = false → paginator.cursor.firstPageWithoutCursor = (paginator.cursor.cursor == "")

theorem OpaqueCursorPagination.beginPage_same {pagination started : OpaqueCursorPagination} {outcome : Except String Bool}
    (begins : pagination.beginPage = (outcome, started)) :
    started.cursor = pagination.cursor ∧ started.endCursor = pagination.endCursor ∧
      started.firstPageWithoutCursor = false := by
  unfold beginPage at begins
  dsimp only at begins
  split at begins
  · cases begins
    exact ⟨rfl, rfl, rfl⟩
  · split at begins
    · cases begins
      exact ⟨rfl, rfl, rfl⟩
    · split at begins
      · cases begins
        exact ⟨rfl, rfl, rfl⟩
      · cases begins
        exact ⟨rfl, rfl, rfl⟩

theorem OpaqueCursorPagination.advance_same {pagination advanced : OpaqueCursorPagination} {nextCursor : String}
    (advances : pagination.advance nextCursor = .ok advanced) :
    advanced.endCursor = pagination.endCursor ∧
      advanced.firstPageWithoutCursor = pagination.firstPageWithoutCursor := by
  unfold advance at advances
  split at advances
  · cases advances
    exact ⟨rfl, rfl⟩
  · split at advances
    · cases advances
    · cases advances
      exact ⟨rfl, rfl⟩

/-- Every call of a cursor or keyset paginator that returns no error leaves it ended, or
at a cursor that is not its end. -/
theorem cursor_turned {paginator : Paginator T} {outcome : Option (List T)}
    (strategy : paginator.strategy = .cursor ∨ paginator.strategy = .keyset)
    (returned : (paginator.nextPage fetch).result = .ok outcome)
    (still : (paginator.nextPage fetch).paginator.error = none) :
    (paginator.nextPage fetch).paginator = paginator ∨
      ∃ cursor, cursor.endCursor = paginator.cursor.endCursor ∧ cursor.firstPageWithoutCursor = false ∧
        (paginator.nextPage fetch).paginator = { paginator with cursor, done := cursor.exhausted } := by
  have unfailed := Paginator.unfailed_of_ok returned
  cases done : paginator.done with
  | true =>
      left
      rw [Paginator.nextPage_done unfailed done]
  | false =>
      right
      rw [Paginator.nextPage_cursor strategy unfailed done] at returned still ⊢
      cases outcome with
      | none =>
          obtain ⟨stopped, begins⟩ := Paginator.nextCursorPage_none returned
          obtain ⟨sameCursor, sameEnd, notFirst⟩ := OpaqueCursorPagination.beginPage_same begins
          refine ⟨stopped, sameEnd, notFirst, ?_⟩
          have exhausted := OpaqueCursorPagination.beginPage_false.mp ⟨stopped, begins⟩
          have stoppedExhausted : stopped.exhausted = true := by
            unfold OpaqueCursorPagination.exhausted at exhausted ⊢
            rw [sameCursor, sameEnd, notFirst]
            rw [Bool.and_eq_true] at exhausted
            exact exhausted.2
          rw [Paginator.nextCursorPage_ended begins, stoppedExhausted]
      | some batch =>
          obtain ⟨started, answer, advanced, begins, answered, advances, rfl⟩ :=
            Paginator.nextCursorPage_page returned still
          obtain ⟨_, sameEnd, notFirst⟩ := OpaqueCursorPagination.beginPage_same begins
          obtain ⟨stillEnd, stillNotFirst⟩ := OpaqueCursorPagination.advance_same advances
          refine ⟨advanced, stillEnd.trans sameEnd, stillNotFirst.trans notFirst, ?_⟩
          rw [Paginator.nextCursorPage_eq begins answered advances]

theorem CursorReached.stays {endCursor : String} {paginator : Paginator T} {outcome : Option (List T)}
    (reached : CursorReached endCursor paginator) (returned : (paginator.nextPage fetch).result = .ok outcome)
    (still : (paginator.nextPage fetch).paginator.error = none) :
    CursorReached endCursor (paginator.nextPage fetch).paginator := by
  obtain same | ⟨cursor, sameEnd, notFirst, turned⟩ := cursor_turned (.inl reached.strategy) returned still
  · rw [same]
    exact reached
  · rw [turned]
    constructor
    · exact reached.strategy
    · exact reached.limit
    · exact sameEnd.trans reached.endCursor
    · exact notFirst
    · intro done
      exact done

theorem KeysetReached.stays {limit : UInt64} {paginator : Paginator T} {outcome : Option (List T)}
    (reached : KeysetReached limit paginator) (returned : (paginator.nextPage fetch).result = .ok outcome)
    (still : (paginator.nextPage fetch).paginator.error = none) :
    KeysetReached limit (paginator.nextPage fetch).paginator := by
  obtain same | ⟨cursor, sameEnd, notFirst, turned⟩ := cursor_turned (.inr reached.strategy) returned still
  · rw [same]
    exact reached
  · rw [turned]
    constructor
    · exact reached.strategy
    · exact reached.limit
    · exact sameEnd.trans reached.endCursor
    · intro undone
      dsimp only [OpaqueCursorPagination.exhausted] at undone ⊢
      rw [notFirst] at undone ⊢
      cases empty : cursor.cursor == "" with
      | false => rfl
      | true =>
          rw [empty] at undone
          cases undone

theorem CursorReached.resumes {endpoint endCursor : String} {paginator : Paginator T} {rest : List T}
    (reached : CursorReached endCursor paginator) (drains : Drains fetch paginator rest) :
    ∃ resumed, (Recipe.cursor endpoint endCursor).build paginator.resumeToken = .ok resumed ∧
      Drains fetch resumed rest := by
  refine ⟨{ endpoint, strategy := .cursor, limit := 0, cursor := .make paginator.cursor.cursor endCursor false }, ?_, ?_⟩
  · unfold Recipe.build Paginator.resumeToken
    rw [reached.strategy]
    rfl
  · cases done : paginator.done with
    | true =>
        rw [drains.unique (.done drains.unfailed done)]
        have exhausted := reached.ended done
        unfold OpaqueCursorPagination.exhausted at exhausted
        rw [reached.endCursor, Bool.and_eq_true] at exhausted
        have newExhausted : (OpaqueCursorPagination.make paginator.cursor.cursor endCursor false).exhausted = true :=
          exhausted.2
        obtain ⟨stopped, begins⟩ := OpaqueCursorPagination.beginPage_false.mpr newExhausted
        apply Drains.ended
        rw [Paginator.nextPage_cursor (.inl rfl) rfl rfl, Paginator.nextCursorPage_ended begins]
    | false =>
        apply drains.simulated (fun _ _ => Paginator.CursorFollows.ends)
          (fun _ _ _ => Paginator.CursorFollows.pages)
        constructor
        · exact .inl reached.strategy
        · exact .inl rfl
        · exact reached.limit.symm
        · exact done.symm
        · rfl
        · constructor
          · rfl
          · exact reached.endCursor.symm
          · exact reached.notFirst.symm
          · exact Nat.zero_le _
          · intro cursor impossible
            cases impossible

theorem KeysetReached.resumes {endpoint : String} {limit : UInt64} (positive : limit ≠ 0) {paginator : Paginator T}
    {rest : List T} (reached : KeysetReached limit paginator) (drains : Drains fetch paginator rest) :
    ∃ resumed, (Recipe.keyset endpoint limit).build paginator.resumeToken = .ok resumed ∧
      Drains fetch resumed rest := by
  let resumed : Paginator T :=
    { endpoint, strategy := .keyset, limit, cursor := .make paginator.cursor.cursor "" true, done := paginator.done }
  refine ⟨resumed, ?_, ?_⟩
  · rw [Recipe.build, keysetPaginator_ok positive, Paginator.resumeToken, reached.strategy, drains.unfailed]
    dsimp only
    rw [Option.isNone_none, Bool.and_true]
  · cases done : paginator.done with
    | true =>
        rw [drains.unique (.done drains.unfailed done)]
        exact .done rfl done
    | false =>
        apply drains.simulated (fun _ _ => Paginator.CursorFollows.ends)
          (fun _ _ _ => Paginator.CursorFollows.pages)
        constructor
        · exact .inr reached.strategy
        · exact .inr rfl
        · exact reached.limit.symm
        · rfl
        · rfl
        · constructor
          · rfl
          · exact reached.endCursor.symm
          · rw [reached.first done]
            exact Bool.true_and _
          · exact Nat.zero_le _
          · intro cursor impossible
            cases impossible

/-! ## Numbered tokens -/

structure NumberedReached (limit : UInt64) (paginator : Paginator T) : Prop where
  strategy : paginator.strategy = .numbered
  limit : paginator.limit = limit
  page : paginator.page ≠ 0

theorem NumberedReached.stays {limit : UInt64} {paginator : Paginator T} {outcome : Option (List T)}
    (reached : NumberedReached limit paginator) (returned : (paginator.nextPage fetch).result = .ok outcome) :
    NumberedReached limit (paginator.nextPage fetch).paginator := by
  have unfailed := Paginator.unfailed_of_ok returned
  cases done : paginator.done with
  | true =>
      rw [Paginator.nextPage_done unfailed done]
      exact reached
  | false =>
      rw [Paginator.nextPage_numbered reached.strategy unfailed done] at returned ⊢
      obtain ⟨few, more, answer, answered, _⟩ := Paginator.nextNumberedPage_ok returned
      rw [Paginator.nextNumberedPage_eq few more answered]
      constructor
      · exact reached.strategy
      · exact reached.limit
      · -- The page number did not wrap.
        have bounded := paginator.page.toNat_lt
        have below : paginator.page.toNat ≠ 2 ^ 64 - 1 := fun last =>
          more (UInt64.toNat_inj.mp (last.trans toNat_uint64Max.symm))
        have counted : (paginator.page + 1).toNat = paginator.page.toNat + 1 := by
          rw [UInt64.toNat_add, UInt64.toNat_one, Nat.mod_eq_of_lt (by omega)]
        intro zero
        change paginator.page + 1 = 0 at zero
        rw [zero] at counted
        cases counted

theorem NumberedReached.resumes {endpoint : String} {limit : UInt64} (positive : limit ≠ 0) {paginator : Paginator T}
    {rest : List T} (reached : NumberedReached limit paginator) (drains : Drains fetch paginator rest) :
    ∃ resumed, (Recipe.numbered endpoint limit).build paginator.resumeToken = .ok resumed ∧
      Drains fetch resumed rest := by
  let resumed : Paginator T :=
    { endpoint, strategy := .numbered, limit, page := paginator.page, done := paginator.done }
  refine ⟨resumed, ?_, ?_⟩
  · rw [Recipe.build, numberedPaginator_ok positive, Paginator.resumeToken, reached.strategy, drains.unfailed]
    dsimp only
    rw [Option.isNone_none, Bool.and_true, if_neg reached.page]
  · cases done : paginator.done with
    | true =>
        rw [drains.unique (.done drains.unfailed done)]
        exact .done rfl done
    | false =>
        apply drains.simulated (fun _ _ => Paginator.NumberedFollows.ends)
          (fun _ _ _ follows page _ => Paginator.NumberedFollows.pages follows page)
        constructor
        · exact reached.strategy
        · rfl
        · exact reached.limit.symm
        · rfl
        · exact Nat.zero_le _
        · rfl
        · rfl

/-! ## Offset tokens -/

/-- A paginator that has ended is past the cap or past the last row. -/
structure OffsetReached (rows : RowGroups T) (limit maxOffset : UInt64) (paginator : Paginator T) : Prop where
  strategy : paginator.strategy = .offset
  limit : paginator.limit = limit
  maximum : paginator.maxOffset = maxOffset
  within : paginator.done = false → paginator.offset.toNat ≤ maxOffset.toNat
  ended : paginator.done = true →
    maxOffset < paginator.offset ∨ rows.groups.length ≤ paginator.offset.toNat

variable {rows : RowGroups T}

theorem toNat_sub_within {maximum offset : UInt64} (within : offset.toNat ≤ maximum.toNat) :
    (maximum - offset).toNat = maximum.toNat - offset.toNat :=
  UInt64.toNat_sub_of_le _ _ (UInt64.le_iff_toNat_le.mpr within)

/-- The next offset, where it does not saturate and where it does. -/
theorem nextOffset_cases (offset counted : UInt64) :
    (if uint64Max - offset < counted then uint64Max else offset + counted).toNat =
        offset.toNat + counted.toNat ∨
      ((if uint64Max - offset < counted then uint64Max else offset + counted).toNat = 2 ^ 64 - 1 ∧
        2 ^ 64 ≤ offset.toNat + counted.toNat) := by
  have bounded := offset.toNat_lt
  have spare : (uint64Max - offset).toNat = 2 ^ 64 - 1 - offset.toNat := by
    rw [toNat_sub_within (by rw [toNat_uint64Max]; omega), toNat_uint64Max]
  by_cases saturates : uint64Max - offset < counted
  · right
    rw [if_pos saturates]
    rw [UInt64.lt_iff_toNat_lt, spare] at saturates
    constructor
    · exact toNat_uint64Max
    · omega
  · left
    rw [if_neg saturates]
    rw [UInt64.lt_iff_toNat_lt, spare] at saturates
    rw [UInt64.toNat_add, Nat.mod_eq_of_lt (by omega)]

theorem OffsetReached.countPage {limit maxOffset counted : UInt64} {paginator : Paginator T}
    (reached : OffsetReached rows limit maxOffset paginator) (undone : paginator.done = false)
    (counts : counted.toNat = min limit.toNat (rows.groups.length - paginator.offset.toNat)) :
    OffsetReached rows limit maxOffset (paginator.countPage counted) := by
  have within := reached.within undone
  have fits := rows.fits
  have room := toNat_sub_within within
  have moved := nextOffset_cases paginator.offset counted
  unfold Paginator.countPage
  rw [reached.limit, reached.maximum, undone]
  generalize (if uint64Max - paginator.offset < counted then uint64Max else paginator.offset + counted) = offset at moved ⊢
  have short : counted < limit ↔ counted.toNat < limit.toNat := UInt64.lt_iff_toNat_lt
  have cap : maxOffset - paginator.offset < limit ↔ maxOffset.toNat - paginator.offset.toNat < limit.toNat := by
    rw [UInt64.lt_iff_toNat_lt, room]
  constructor
  · exact reached.strategy
  · rfl
  · rfl
  · intro going
    simp only [Bool.false_or, Bool.or_eq_false_iff, Bool.and_eq_false_iff, Bool.not_eq_false', decide_eq_false_iff_not,
      decide_eq_true_eq, short, cap] at going
    change offset.toNat ≤ maxOffset.toNat
    omega
  · intro stops
    simp only [Bool.false_or, Bool.or_eq_true, Bool.and_eq_true, Bool.not_eq_true', decide_eq_false_iff_not,
      decide_eq_true_eq, short, cap] at stops
    change maxOffset < offset ∨ rows.groups.length ≤ offset.toNat
    rw [UInt64.lt_iff_toNat_lt]
    omega

theorem OffsetReached.stays (served : rows.ServedBy fetch) {limit maxOffset : UInt64} {paginator : Paginator T}
    {outcome : Option (List T)} (reached : OffsetReached rows limit maxOffset paginator)
    (returned : (paginator.nextPage fetch).result = .ok outcome) :
    OffsetReached rows limit maxOffset (paginator.nextPage fetch).paginator := by
  have unfailed := Paginator.unfailed_of_ok returned
  cases done : paginator.done with
  | true =>
      rw [Paginator.nextPage_done unfailed done]
      exact reached
  | false =>
      rw [Paginator.nextPage_offset reached.strategy unfailed done] at returned ⊢
      obtain ⟨answer, answered, counts, _⟩ := Paginator.nextOffsetPage_ok returned
      obtain ⟨slice, answeredSlice, _, counted⟩ := served { offset := paginator.offset, limit := paginator.limit }
      rw [answered] at answeredSlice
      cases answeredSlice
      rw [Paginator.nextOffsetPage_eq answered counts, counted]
      apply reached.countPage done
      rw [Option.getD_some, rows.slice_length, reached.limit]

/-- Past the last row there is one empty page, and nothing after it. -/
theorem drains_past_rows (served : rows.ServedBy fetch) {paginator : Paginator T}
    (strategy : paginator.strategy = .offset) (unfailed : paginator.error = none) (positive : paginator.limit ≠ 0)
    (past : rows.groups.length ≤ paginator.offset.toNat) : Drains fetch paginator [] := by
  cases done : paginator.done with
  | true => exact .done unfailed done
  | false =>
      obtain ⟨answer, answered, items, counted⟩ := served { offset := paginator.offset, limit := paginator.limit }
      have empty : rows.slice { offset := paginator.offset, limit := paginator.limit } = [] := by
        rw [RowGroups.slice, List.drop_of_length_le past, List.take_nil]
      rw [empty, List.flatten_nil] at items
      rw [empty, List.length_nil] at counted
      have counts : answer.counted.getD (UInt64.ofNat answer.items.length) = 0 := by
        rw [counted]
        rfl
      have step : paginator.nextPage fetch = paginator.nextOffsetPage fetch :=
        Paginator.nextPage_offset strategy unfailed done
      rw [Paginator.nextOffsetPage_eq answered (by rw [counts]; simp), counts, items] at step
      have page : Drains fetch paginator ([] ++ []) := by
        apply Drains.page
        · rw [step]
        · rw [step]
          dsimp only
          apply Drains.done
          · rw [Paginator.countPage_error]
            exact unfailed
          · have short : (0 : UInt64) < paginator.limit := UInt64.pos_iff_ne_zero.mpr positive
            simp [Paginator.countPage, short]
      exact page

theorem OffsetReached.resumes (served : rows.ServedBy fetch) {endpoint : String} {limit maxOffset : UInt64}
    (positive : limit ≠ 0) {paginator : Paginator T} {rest : List T}
    (reached : OffsetReached rows limit maxOffset paginator) (drains : Drains fetch paginator rest) :
    ∃ resumed, (Recipe.offset endpoint limit maxOffset).build paginator.resumeToken = .ok resumed ∧
      Drains fetch resumed rest := by
  let past := decide (maxOffset < paginator.offset)
  let resumed : Paginator T :=
    { endpoint, strategy := .offset, limit, maxOffset, offset := paginator.offset, truncated := past, done := past }
  refine ⟨resumed, ?_, ?_⟩
  · rw [Recipe.build, offsetPaginator_ok positive, Paginator.resumeToken, reached.strategy]
  · cases done : paginator.done with
    | true =>
        rw [drains.unique (.done drains.unfailed done)]
        obtain beyond | past := reached.ended done
        · exact .done rfl (decide_eq_true beyond)
        · exact drains_past_rows served rfl rfl positive past
    | false =>
        have notPast : ¬maxOffset < paginator.offset := by
          rw [UInt64.lt_iff_toNat_lt, not_lt]
          exact reached.within done
        apply drains.simulated (fun _ _ => Paginator.OffsetFollows.ends)
          (fun _ _ _ follows page _ => Paginator.OffsetFollows.pages follows page)
        constructor
        · exact reached.strategy
        · rfl
        · exact reached.limit.symm
        · exact reached.maximum.symm
        · rfl
        · exact (decide_eq_false notPast).trans done.symm
        · rfl

/-! ## Every strategy -/

theorem positive_of_built {endpoint : String} {strategy : Strategy} {limit : UInt64} {paginator : Paginator T}
    {change : Paginator T → Except CppError (Paginator T)} (other : strategy ≠ .cursor)
    (built : construct endpoint strategy limit >>= change = .ok paginator) : limit ≠ 0 := by
  obtain ⟨base, constructed, _⟩ := bind_ok built
  exact (construct_ok constructed).2 other

theorem resumes_built {recipe : Recipe} (serves : recipe.Serves fetch) {start : PageRequest} {paginator : Paginator T}
    (built : recipe.build start = .ok paginator) {all : List T} (drains : Drains fetch paginator all) (calls : Nat) :
    ∃ rest resumed, Resumes fetch recipe all (pageRun (fun _ => fetch) paginator calls) rest resumed := by
  cases recipe with
  | cursor endpoint endCursor =>
      have reached : CursorReached endCursor paginator := by
        cases built
        constructor
        · rfl
        · rfl
        · rfl
        · rfl
        · intro impossible
          cases impossible
      exact resumes_of_invariant (CursorReached endCursor) (fun _ _ reached => reached.stays)
        (fun _ _ reached => reached.resumes) reached drains calls
  | keyset endpoint limit =>
      have positive : limit ≠ 0 := positive_of_built (by decide) built
      have reached : KeysetReached limit paginator := by
        rw [Recipe.build, keysetPaginator_ok positive] at built
        cases built
        constructor
        · rfl
        · rfl
        · rfl
        · intro _
          exact Bool.true_and _
      exact resumes_of_invariant (KeysetReached limit) (fun _ _ reached => reached.stays)
        (fun _ _ reached => reached.resumes positive) reached drains calls
  | numbered endpoint limit =>
      have positive : limit ≠ 0 := positive_of_built (by decide) built
      have reached : NumberedReached limit paginator := by
        rw [Recipe.build, numberedPaginator_ok positive] at built
        cases built
        constructor
        · rfl
        · rfl
        · dsimp only
          split
          · decide
          · next nonzero => exact nonzero
      exact resumes_of_invariant (NumberedReached limit) (fun _ _ reached returned _ => reached.stays returned)
        (fun _ _ reached => reached.resumes positive) reached drains calls
  | offset endpoint limit maxOffset =>
      obtain ⟨rows, served⟩ := serves
      have positive : limit ≠ 0 := positive_of_built (by decide) built
      have reached : OffsetReached rows limit maxOffset paginator := by
        rw [Recipe.build, offsetPaginator_ok positive] at built
        cases built
        constructor
        · rfl
        · rfl
        · rfl
        · intro undone
          exact UInt64.le_iff_toNat_le.mp (UInt64.not_lt.mp (of_decide_eq_false undone))
        · intro done
          exact .inl (of_decide_eq_true done)
      exact resumes_of_invariant (OffsetReached rows limit maxOffset)
        (fun _ _ reached returned _ => reached.stays served returned)
        (fun _ _ reached => reached.resumes served positive) reached drains calls

/-- Whenever the run ends without an error, a paginator made from the token of any point
of it returns exactly the items that were still to come, and none after the last page. -/
theorem resume_continues {recipe : Recipe} {fetch : Fetch T} (serves : recipe.Serves fetch) {start : PageRequest}
    {paginator : Paginator T} (built : recipe.build start = .ok paginator) {all : List T}
    (drains : Drains fetch paginator all) (calls : Nat) :
    ∃ rest resumed, Resumes fetch recipe all (pageRun (fun _ => fetch) paginator calls) rest resumed ∧
      (∀ items, Drains fetch resumed items → items = rest) ∧
      (∀ maxItems, ∃ fuel last,
        Paginator.collect (fun _ => fetch) maxItems fuel 0 [] resumed = some (.ok (rest.take maxItems), last)) ∧
      (((pageRun (fun _ => fetch) paginator calls).paginator.nextPage fetch).result = .ok none → rest = []) := by
  obtain ⟨rest, resumed, resumes⟩ := resumes_built serves built drains calls
  refine ⟨rest, resumed, resumes, ?_, ?_, ?_⟩
  · intro items again
    exact again.unique resumes.resumes
  · intro maxItems
    exact resumes.resumes.collect maxItems 0 (Nat.zero_le _)
  · intro ended
    exact resumes.continues.unique (.ended ended)

end Resume

/-- Two rows a page of three groups, the second of them with a reply. -/
def threeGroups : RowGroups Nat where
  groups := [[1], [2, 3], [4]]
  fits := by decide

def threeGroupsFetch : Fetch Nat := fun request => .ok
  { items := (threeGroups.slice request).flatten, counted := some (UInt64.ofNat (threeGroups.slice request).length) }

def threeGroupsPaginator : Paginator Nat :=
  { endpoint := "/comments", strategy := .offset, limit := 2, maxOffset := 100 }

theorem threeGroups_drains : Drains threeGroupsFetch threeGroupsPaginator ([1, 2, 3] ++ ([4] ++ [])) := by
  apply Drains.page
  · rfl
  · apply Drains.page
    · rfl
    · apply Drains.ended
      rfl

theorem resume_continues_threeGroups : ∃ rest resumed, Resumes threeGroupsFetch (.offset "/comments" 2 100)
    [1, 2, 3, 4] (pageRun (fun _ => threeGroupsFetch) threeGroupsPaginator 1) rest resumed := by
  have built : (Recipe.offset "/comments" 2 100).build {} = .ok threeGroupsPaginator := rfl
  have serves : (Recipe.offset "/comments" 2 100).Serves threeGroupsFetch :=
    ⟨threeGroups, fun _ => ⟨_, rfl, rfl, rfl⟩⟩
  obtain ⟨rest, resumed, resumes, _⟩ := resume_continues serves built threeGroups_drains 1
  exact ⟨rest, resumed, resumes⟩

end Polymarket.Pagination
