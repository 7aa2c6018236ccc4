import Polymarket.Pagination.Paginator

/-! Draining a paginator, and when another one drains to the same items. -/

set_option autoImplicit false

namespace Polymarket.Pagination

variable {T : Type}

/-- The items of the pages that successive calls return, until a call returns none. -/
inductive Drains (fetch : Fetch T) : Paginator T → List T → Prop where
  | ended {paginator} : (paginator.nextPage fetch).result = .ok none → Drains fetch paginator []
  | page {paginator batch rest} : (paginator.nextPage fetch).result = .ok (some batch) →
      Drains fetch (paginator.nextPage fetch).paginator rest → Drains fetch paginator (batch ++ rest)

namespace Paginator

variable {fetch : Fetch T} {paginator : Paginator T}

theorem nextPage_error {error : SdkError} (failed : paginator.error = some error) :
    paginator.nextPage fetch = ⟨.error error, paginator, none⟩ := by
  unfold nextPage
  rw [failed]

theorem nextPage_done (unfailed : paginator.error = none) (done : paginator.done = true) :
    paginator.nextPage fetch = ⟨.ok none, paginator, none⟩ := by
  unfold nextPage
  rw [unfailed]
  dsimp only
  rw [if_pos done]

theorem nextPage_live (unfailed : paginator.error = none) (undone : paginator.done = false) :
    paginator.nextPage fetch = match paginator.strategy with
      | .offset => paginator.nextOffsetPage fetch
      | .numbered => paginator.nextNumberedPage fetch
      | .cursor | .keyset => paginator.nextCursorPage fetch := by
  unfold nextPage
  rw [unfailed]
  dsimp only
  rw [undone]
  exact if_neg (by decide)

theorem nextPage_cursor (strategy : paginator.strategy = .cursor ∨ paginator.strategy = .keyset)
    (unfailed : paginator.error = none) (undone : paginator.done = false) :
    paginator.nextPage fetch = paginator.nextCursorPage fetch := by
  rw [nextPage_live unfailed undone]
  obtain isCursor | isKeyset := strategy
  · rw [isCursor]
  · rw [isKeyset]

theorem nextPage_numbered (strategy : paginator.strategy = .numbered) (unfailed : paginator.error = none) (undone : paginator.done = false) :
    paginator.nextPage fetch = paginator.nextNumberedPage fetch := by
  rw [nextPage_live unfailed undone, strategy]

theorem nextPage_offset (strategy : paginator.strategy = .offset) (unfailed : paginator.error = none) (undone : paginator.done = false) :
    paginator.nextPage fetch = paginator.nextOffsetPage fetch := by
  rw [nextPage_live unfailed undone, strategy]

theorem unfailed_of_ok {outcome : Option (List T)} (returned : (paginator.nextPage fetch).result = .ok outcome) :
    paginator.error = none := by
  cases failed : paginator.error with
  | none => rfl
  | some error =>
      rw [nextPage_error failed] at returned
      cases returned

theorem undone_of_page {batch : List T} (page : (paginator.nextPage fetch).result = .ok (some batch)) : paginator.done = false := by
  cases done : paginator.done with
  | false => rfl
  | true =>
      rw [nextPage_done (unfailed_of_ok page) done] at page
      cases page

/-! ## What a call that returns a page has done -/

theorem nextCursorPage_page {batch : List T} (page : (paginator.nextCursorPage fetch).result = .ok (some batch))
    (unfailed : (paginator.nextCursorPage fetch).paginator.error = none) :
    ∃ started answer advanced, paginator.cursor.beginPage = (.ok true, started) ∧
      fetch { cursor := started.cursor, limit := paginator.limit } = .ok answer ∧
      started.advance answer.nextCursor = .ok advanced ∧ batch = answer.items := by
  unfold nextCursorPage at page unfailed
  cases begins : paginator.cursor.beginPage with
  | mk outcome started =>
      rw [begins] at page unfailed
      cases outcome with
      | error text => cases page
      | ok mayBegin =>
          cases mayBegin with
          | false => cases page
          | true =>
              dsimp only at page unfailed
              cases answered : fetch { cursor := started.cursor, limit := paginator.limit } with
              | error error =>
                  rw [answered] at page
                  cases page
              | ok answer =>
                  rw [answered] at page unfailed
                  dsimp only at page unfailed
                  cases advances : started.advance answer.nextCursor with
                  | error text =>
                      rw [advances] at unfailed
                      cases unfailed
                  | ok advanced =>
                      rw [advances] at page
                      cases page
                      exact ⟨started, answer, advanced, rfl, answered, advances, rfl⟩

theorem nextCursorPage_eq {started advanced : OpaqueCursorPagination} {answer : Page T}
    (begins : paginator.cursor.beginPage = (.ok true, started))
    (answered : fetch { cursor := started.cursor, limit := paginator.limit } = .ok answer)
    (advances : started.advance answer.nextCursor = .ok advanced) :
    paginator.nextCursorPage fetch = ⟨.ok (some answer.items),
      { paginator with cursor := advanced, done := advanced.exhausted },
      some { cursor := started.cursor, limit := paginator.limit }⟩ := by
  unfold nextCursorPage
  rw [begins]
  dsimp only
  rw [answered]
  dsimp only
  rw [advances]

theorem nextCursorPage_none (ended : (paginator.nextCursorPage fetch).result = .ok none) :
    ∃ stopped, paginator.cursor.beginPage = (.ok false, stopped) := by
  unfold nextCursorPage at ended
  cases begins : paginator.cursor.beginPage with
  | mk outcome started =>
      rw [begins] at ended
      cases outcome with
      | error text => cases ended
      | ok mayBegin =>
          cases mayBegin with
          | false => exact ⟨started, rfl⟩
          | true =>
              dsimp only at ended
              cases answered : fetch { cursor := started.cursor, limit := paginator.limit } with
              | error error =>
                  rw [answered] at ended
                  cases ended
              | ok answer =>
                  rw [answered] at ended
                  dsimp only at ended
                  cases advances : started.advance answer.nextCursor with
                  | error text =>
                      rw [advances] at ended
                      cases ended
                  | ok advanced =>
                      rw [advances] at ended
                      cases ended

theorem nextCursorPage_ended {stopped : OpaqueCursorPagination}
    (begins : paginator.cursor.beginPage = (.ok false, stopped)) :
    paginator.nextCursorPage fetch = ⟨.ok none, { paginator with cursor := stopped, done := true }, none⟩ := by
  unfold nextCursorPage
  rw [begins]

theorem nextNumberedPage_ok {outcome : Option (List T)} (returned : (paginator.nextNumberedPage fetch).result = .ok outcome) :
    paginator.pagesStarted < maxPages ∧ paginator.page ≠ uint64Max ∧
      ∃ answer, fetch { limit := paginator.limit, page := paginator.page } = .ok answer ∧ outcome = some answer.items := by
  unfold nextNumberedPage at returned
  by_cases many : maxPages ≤ paginator.pagesStarted
  · rw [if_pos many] at returned
    cases returned
  · rw [if_neg many] at returned
    by_cases last : paginator.page = uint64Max
    · rw [if_pos last] at returned
      cases returned
    · rw [if_neg last] at returned
      dsimp only at returned
      cases answered : fetch { limit := paginator.limit, page := paginator.page } with
      | error error =>
          rw [answered] at returned
          cases returned
      | ok answer =>
          rw [answered] at returned
          cases returned
          exact ⟨not_le.mp many, last, answer, rfl, rfl⟩

theorem nextNumberedPage_eq {answer : Page T} (few : paginator.pagesStarted < maxPages)
    (more : paginator.page ≠ uint64Max)
    (answered : fetch { limit := paginator.limit, page := paginator.page } = .ok answer) :
    paginator.nextNumberedPage fetch = ⟨.ok (some answer.items),
      { paginator with
        pagesStarted := paginator.pagesStarted + 1
        page := paginator.page + 1
        done := !answer.hasMore }, some { limit := paginator.limit, page := paginator.page }⟩ := by
  unfold nextNumberedPage
  rw [if_neg (not_le.mpr few), if_neg more]
  dsimp only
  rw [answered]

/-- What the offset and the flags are after a page that counts so many rows. -/
def countPage (paginator : Paginator T) (counted : UInt64) : Paginator T :=
  let shortPage := decide (counted < paginator.limit)
  let atOffsetCap := !shortPage && decide (paginator.maxOffset - paginator.offset < paginator.limit)
  { paginator with
    offset := if uint64Max - paginator.offset < counted then uint64Max else paginator.offset + counted
    done := paginator.done || shortPage || atOffsetCap
    truncated := paginator.truncated || atOffsetCap }

@[simp] theorem countPage_error (paginator : Paginator T) (counted : UInt64) :
    (paginator.countPage counted).error = paginator.error := by
  rw [countPage]

theorem nextOffsetPage_ok {outcome : Option (List T)} (returned : (paginator.nextOffsetPage fetch).result = .ok outcome) :
    ∃ answer, fetch { offset := paginator.offset, limit := paginator.limit } = .ok answer ∧
      ¬(paginator.limit < answer.counted.getD (UInt64.ofNat answer.items.length) ∨
        UInt64.ofNat answer.items.length < answer.counted.getD (UInt64.ofNat answer.items.length)) ∧
      outcome = some answer.items := by
  unfold nextOffsetPage at returned
  dsimp only at returned
  cases answered : fetch { offset := paginator.offset, limit := paginator.limit } with
  | error error =>
      rw [answered] at returned
      cases returned
  | ok answer =>
      rw [answered] at returned
      dsimp only at returned
      by_cases exceeding : paginator.limit < answer.counted.getD (UInt64.ofNat answer.items.length) ∨
          UInt64.ofNat answer.items.length < answer.counted.getD (UInt64.ofNat answer.items.length)
      · rw [if_pos exceeding] at returned
        cases returned
      · rw [if_neg exceeding] at returned
        cases returned
        exact ⟨answer, rfl, exceeding, rfl⟩

theorem nextOffsetPage_eq {answer : Page T}
    (answered : fetch { offset := paginator.offset, limit := paginator.limit } = .ok answer)
    (counts : ¬(paginator.limit < answer.counted.getD (UInt64.ofNat answer.items.length) ∨
      UInt64.ofNat answer.items.length < answer.counted.getD (UInt64.ofNat answer.items.length))) :
    paginator.nextOffsetPage fetch = ⟨.ok (some answer.items),
      paginator.countPage (answer.counted.getD (UInt64.ofNat answer.items.length)),
      some { offset := paginator.offset, limit := paginator.limit }⟩ := by
  unfold nextOffsetPage
  dsimp only
  rw [answered]
  dsimp only
  rw [if_neg counts]
  rfl

end Paginator

namespace Drains

variable {fetch : Fetch T}

theorem unfailed {paginator : Paginator T} {items : List T} (drains : Drains fetch paginator items) :
    paginator.error = none := by
  cases drains with
  | ended returned => exact Paginator.unfailed_of_ok returned
  | page returned _ => exact Paginator.unfailed_of_ok returned

theorem done {paginator : Paginator T} (unfailed : paginator.error = none) (done : paginator.done = true) :
    Drains fetch paginator [] := by
  apply ended
  rw [Paginator.nextPage_done unfailed done]

/-- A paginator drains to one list only. -/
theorem unique {paginator : Paginator T} {left right : List T} (leftDrains : Drains fetch paginator left)
    (rightDrains : Drains fetch paginator right) : left = right := by
  induction leftDrains generalizing right with
  | ended returned =>
      cases rightDrains with
      | ended _ => rfl
      | page paged _ =>
          rw [returned] at paged
          cases paged
  | @page paginator batch rest returned drains ih =>
      cases rightDrains with
      | ended ended =>
          rw [returned] at ended
          cases ended
      | page paged drained =>
          rw [returned] at paged
          cases paged
          rw [ih drained]

/-- A relation that calls without an error keep carries draining over. -/
theorem simulated {Matches : Paginator T → Paginator T → Prop}
    (ends : ∀ old new, Matches old new → (old.nextPage fetch).result = .ok none →
      (new.nextPage fetch).result = .ok none)
    (pages : ∀ old new batch, Matches old new → (old.nextPage fetch).result = .ok (some batch) →
      (old.nextPage fetch).paginator.error = none →
      (new.nextPage fetch).result = .ok (some batch) ∧
        Matches (old.nextPage fetch).paginator (new.nextPage fetch).paginator)
    {old new : Paginator T} {items : List T} (matched : Matches old new) (drains : Drains fetch old items) :
    Drains fetch new items := by
  induction drains generalizing new with
  | ended returned => exact ended (ends _ _ matched returned)
  | page returned rest ih =>
      obtain ⟨paged, still⟩ := pages _ _ _ matched returned rest.unfailed
      exact page paged (ih still)

theorem take_append_take (left middle right : List T) (bound : Nat) :
    (left ++ middle.take (bound - left.length) ++ right).take bound = (left ++ (middle ++ right)).take bound := by
  have room : bound - left.length - (middle.take (bound - left.length)).length =
      bound - left.length - middle.length := by
    rw [List.length_take]
    omega
  rw [List.append_assoc, List.take_append, List.take_append, List.take_append, List.take_append, List.take_take,
    min_self, room]

/-- `collect` returns these items, up to its bound. -/
theorem collect {paginator : Paginator T} {items : List T} (drains : Drains fetch paginator items) (maxItems call : Nat)
    {collected : List T} (within : collected.length ≤ maxItems) :
    ∃ fuel last, Paginator.collect (fun _ => fetch) maxItems fuel call collected paginator =
      some (.ok ((collected ++ items).take maxItems), last) := by
  induction drains generalizing call collected with
  | @ended paginator returned =>
      refine ⟨1, ?_⟩
      rw [List.append_nil, List.take_of_length_le within, Paginator.collect]
      split
      · exact ⟨_, rfl⟩
      · dsimp only
        rw [returned]
        exact ⟨_, rfl⟩
  | @page paginator batch rest returned drains ih =>
      by_cases full : maxItems ≤ collected.length
      · refine ⟨1, paginator, ?_⟩
        rw [Paginator.collect, if_pos full, List.take_append_of_le_length full, List.take_of_length_le within]
      · have fits : (collected ++ batch.take (maxItems - collected.length)).length ≤ maxItems := by
          rw [List.length_append, List.length_take]
          omega
        obtain ⟨fuel, last, ended⟩ := ih (call + 1) fits
        refine ⟨fuel + 1, last, ?_⟩
        rw [Paginator.collect, if_neg full]
        dsimp only
        rw [returned]
        dsimp only
        rw [ended]
        rw [take_append_take]

end Drains

end Polymarket.Pagination
