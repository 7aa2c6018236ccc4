import Polymarket.Pagination.Drain

/-! A paginator at the same place with a shorter past returns the same pages. -/

set_option autoImplicit false

namespace Polymarket.Pagination

variable {T : Type}

/-! ## Cursors -/

namespace OpaqueCursorPagination

/-- The same place with a shorter past. -/
structure Follows (old new : OpaqueCursorPagination) : Prop where
  cursor : new.cursor = old.cursor
  endCursor : new.endCursor = old.endCursor
  firstPage : new.firstPageWithoutCursor = old.firstPageWithoutCursor
  pagesStarted : new.pagesStarted ≤ old.pagesStarted
  seen : ∀ cursor ∈ new.seenCursors, cursor ∈ old.seenCursors

variable {old new started : OpaqueCursorPagination}

theorem unseen {cursor : String} (seen : ∀ cursor ∈ new.seenCursors, cursor ∈ old.seenCursors)
    (unseen : old.seenCursors.contains cursor = false) : new.seenCursors.contains cursor = false := by
  rw [← Bool.not_eq_true, List.contains_iff_mem] at unseen ⊢
  intro member
  exact unseen (seen cursor member)

theorem Follows.beginPage_true (follows : Follows old new) (begins : old.beginPage = (.ok true, started)) :
    ∃ startedNew, new.beginPage = (.ok true, startedNew) ∧ Follows started startedNew := by
  unfold beginPage at begins ⊢
  rw [follows.cursor, follows.endCursor, follows.firstPage]
  dsimp only at begins ⊢
  split at begins
  · cases begins
  · next going =>
    rw [if_neg going]
    split at begins
    · cases begins
    · next few =>
      rw [if_neg (by have fewer := follows.pagesStarted; omega)]
      split at begins
      · cases begins
      · next fresh =>
        have freshNew : ¬(!old.firstPageWithoutCursor && new.seenCursors.contains old.cursor) = true := by
          cases first : old.firstPageWithoutCursor with
          | true => simp
          | false =>
              rw [first] at fresh
              rw [unseen follows.seen (by simpa using fresh)]
              decide
        rw [if_neg freshNew]
        cases begins
        refine ⟨_, rfl, ?_⟩
        constructor
        · rfl
        · rfl
        · rfl
        · exact Nat.succ_le_succ follows.pagesStarted
        · intro cursor member
          dsimp only at member ⊢
          split at member
          · next first =>
            rw [if_pos first]
            exact follows.seen cursor member
          · next notFirst =>
            rw [if_neg notFirst]
            obtain same | earlier := List.mem_cons.mp member
            · exact List.mem_cons.mpr (.inl same)
            · exact List.mem_cons.mpr (.inr (follows.seen cursor earlier))

theorem beginPage_false :
    (∃ stopped, old.beginPage = (.ok false, stopped)) ↔ old.exhausted = true := by
  unfold beginPage exhausted
  dsimp only
  constructor
  · rintro ⟨stopped, begins⟩
    split at begins
    · next stops => exact stops
    · split at begins
      · cases begins
      · split at begins
        · cases begins
        · cases begins
  · intro stops
    rw [if_pos stops]
    exact ⟨_, rfl⟩

theorem Follows.exhausted (follows : Follows old new) : new.exhausted = old.exhausted := by
  unfold OpaqueCursorPagination.exhausted
  rw [follows.cursor, follows.endCursor, follows.firstPage]

theorem Follows.advance {advanced : OpaqueCursorPagination} {nextCursor : String} (follows : Follows old new)
    (advances : old.advance nextCursor = .ok advanced) :
    ∃ advancedNew, new.advance nextCursor = .ok advancedNew ∧ Follows advanced advancedNew := by
  unfold OpaqueCursorPagination.advance at advances ⊢
  rw [follows.endCursor]
  split at advances
  · next last =>
    cases advances
    rw [if_pos last]
    exact ⟨_, rfl, rfl, rfl, follows.firstPage, follows.pagesStarted, follows.seen⟩
  · next more =>
    rw [if_neg more]
    split at advances
    · cases advances
    · next fresh =>
      cases advances
      have freshNew := unseen follows.seen (by simpa using fresh)
      rw [if_neg (by rw [freshNew]; decide)]
      exact ⟨_, rfl, rfl, rfl, follows.firstPage, follows.pagesStarted, follows.seen⟩

end OpaqueCursorPagination

namespace Paginator

/-- At the same cursor, after fewer pages. -/
structure CursorFollows (old new : Paginator T) : Prop where
  strategy : old.strategy = .cursor ∨ old.strategy = .keyset
  newStrategy : new.strategy = .cursor ∨ new.strategy = .keyset
  limit : new.limit = old.limit
  done : new.done = old.done
  unfailed : new.error = none
  cursor : old.cursor.Follows new.cursor

variable {fetch : Fetch T} {old new : Paginator T}

theorem CursorFollows.ends (follows : CursorFollows old new) (ended : (old.nextPage fetch).result = .ok none) :
    (new.nextPage fetch).result = .ok none := by
  cases done : old.done with
  | true => rw [nextPage_done follows.unfailed (follows.done.trans done)]
  | false =>
      rw [nextPage_cursor follows.strategy (unfailed_of_ok ended) done] at ended
      rw [nextPage_cursor follows.newStrategy follows.unfailed (follows.done.trans done)]
      have exhausted := OpaqueCursorPagination.beginPage_false.mp (nextCursorPage_none ended)
      rw [← follows.cursor.exhausted] at exhausted
      obtain ⟨stopped, begins⟩ := OpaqueCursorPagination.beginPage_false.mpr exhausted
      rw [nextCursorPage_ended begins]

theorem CursorFollows.pages {batch : List T} (follows : CursorFollows old new)
    (page : (old.nextPage fetch).result = .ok (some batch)) (still : (old.nextPage fetch).paginator.error = none) :
    (new.nextPage fetch).result = .ok (some batch) ∧
      CursorFollows (old.nextPage fetch).paginator (new.nextPage fetch).paginator := by
  have unfailed := unfailed_of_ok page
  have undone := undone_of_page page
  rw [nextPage_cursor follows.strategy unfailed undone] at page still ⊢
  rw [nextPage_cursor follows.newStrategy follows.unfailed (follows.done.trans undone)]
  obtain ⟨started, answer, advanced, begins, answered, advances, rfl⟩ := nextCursorPage_page page still
  obtain ⟨startedNew, beginsNew, startedFollows⟩ := follows.cursor.beginPage_true begins
  obtain ⟨advancedNew, advancesNew, advancedFollows⟩ := startedFollows.advance advances
  have answeredNew := answered
  rw [← startedFollows.cursor, ← follows.limit] at answeredNew
  rw [nextCursorPage_eq begins answered advances, nextCursorPage_eq beginsNew answeredNew advancesNew]
  constructor
  · rfl
  · constructor
    · exact follows.strategy
    · exact follows.newStrategy
    · exact follows.limit
    · exact advancedFollows.exhausted
    · exact follows.unfailed
    · exact advancedFollows

/-! ## Numbered pages -/

structure NumberedFollows (old new : Paginator T) : Prop where
  strategy : old.strategy = .numbered
  newStrategy : new.strategy = .numbered
  limit : new.limit = old.limit
  page : new.page = old.page
  pagesStarted : new.pagesStarted ≤ old.pagesStarted
  done : new.done = old.done
  unfailed : new.error = none

theorem NumberedFollows.ends (follows : NumberedFollows old new) (ended : (old.nextPage fetch).result = .ok none) :
    (new.nextPage fetch).result = .ok none := by
  cases done : old.done with
  | true => rw [nextPage_done follows.unfailed (follows.done.trans done)]
  | false =>
      rw [nextPage_numbered follows.strategy (unfailed_of_ok ended) done] at ended
      obtain ⟨_, _, _, _, impossible⟩ := nextNumberedPage_ok ended
      cases impossible

theorem NumberedFollows.pages {batch : List T} (follows : NumberedFollows old new)
    (page : (old.nextPage fetch).result = .ok (some batch)) :
    (new.nextPage fetch).result = .ok (some batch) ∧
      NumberedFollows (old.nextPage fetch).paginator (new.nextPage fetch).paginator := by
  have unfailed := unfailed_of_ok page
  have undone := undone_of_page page
  rw [nextPage_numbered follows.strategy unfailed undone] at page ⊢
  rw [nextPage_numbered follows.newStrategy follows.unfailed (follows.done.trans undone)]
  obtain ⟨few, more, answer, answered, same⟩ := nextNumberedPage_ok page
  cases same
  have fewNew := lt_of_le_of_lt follows.pagesStarted few
  have moreNew := more
  have answeredNew := answered
  rw [← follows.page] at moreNew
  rw [← follows.page, ← follows.limit] at answeredNew
  rw [nextNumberedPage_eq few more answered, nextNumberedPage_eq fewNew moreNew answeredNew]
  constructor
  · rfl
  · constructor
    · exact follows.strategy
    · exact follows.newStrategy
    · exact follows.limit
    · exact congrArg (· + 1) follows.page
    · exact Nat.succ_le_succ follows.pagesStarted
    · rfl
    · exact follows.unfailed

/-! ## Offset pages -/

structure OffsetFollows (old new : Paginator T) : Prop where
  strategy : old.strategy = .offset
  newStrategy : new.strategy = .offset
  limit : new.limit = old.limit
  maxOffset : new.maxOffset = old.maxOffset
  offset : new.offset = old.offset
  done : new.done = old.done
  unfailed : new.error = none

theorem OffsetFollows.countPage (follows : OffsetFollows old new) (counted : UInt64) :
    OffsetFollows (old.countPage counted) (new.countPage counted) := by
  unfold Paginator.countPage
  rw [follows.limit, follows.maxOffset, follows.offset, follows.done]
  constructor
  · exact follows.strategy
  · exact follows.newStrategy
  · rfl
  · rfl
  · rfl
  · rfl
  · exact follows.unfailed

theorem OffsetFollows.ends (follows : OffsetFollows old new) (ended : (old.nextPage fetch).result = .ok none) :
    (new.nextPage fetch).result = .ok none := by
  cases done : old.done with
  | true => rw [nextPage_done follows.unfailed (follows.done.trans done)]
  | false =>
      rw [nextPage_offset follows.strategy (unfailed_of_ok ended) done] at ended
      obtain ⟨_, _, _, impossible⟩ := nextOffsetPage_ok ended
      cases impossible

theorem OffsetFollows.pages {batch : List T} (follows : OffsetFollows old new)
    (page : (old.nextPage fetch).result = .ok (some batch)) :
    (new.nextPage fetch).result = .ok (some batch) ∧
      OffsetFollows (old.nextPage fetch).paginator (new.nextPage fetch).paginator := by
  have unfailed := unfailed_of_ok page
  have undone := undone_of_page page
  rw [nextPage_offset follows.strategy unfailed undone] at page ⊢
  rw [nextPage_offset follows.newStrategy follows.unfailed (follows.done.trans undone)]
  obtain ⟨answer, answered, counts, same⟩ := nextOffsetPage_ok page
  cases same
  have answeredNew := answered
  have countsNew := counts
  rw [← follows.offset, ← follows.limit] at answeredNew
  rw [← follows.limit] at countsNew
  rw [nextOffsetPage_eq answered counts, nextOffsetPage_eq answeredNew countsNew]
  exact ⟨rfl, follows.countPage _⟩

end Paginator

end Polymarket.Pagination
