import Polymarket.Pagination.Drain
import Polymarket.Pagination.Termination

/-! Iterating over items and collecting them: both see the pages that successive calls
return, also when the iteration is left and taken up again. -/

set_option autoImplicit false

namespace Polymarket.Pagination

variable {T : Type}

/-! ## Loops that are left -/

namespace Paginator

/-- `items().begin()`. -/
def begin_ (fetch : Nat → Fetch T) (pages call : Nat) (paginator : Paginator T) : Option (Nat × Paginator T) :=
  if paginator.buffer.length ≤ paginator.bufferIndex then fillBuffer fetch pages call paginator
  else some (call, paginator)

/-- `operator++` of the iterator. -/
def advance (fetch : Nat → Fetch T) (pages call : Nat) (paginator : Paginator T) : Option (Nat × Paginator T) :=
  let next := { paginator with bufferIndex := paginator.bufferIndex + 1 }
  if next.buffer.length ≤ next.bufferIndex then fillBuffer fetch pages call next else some (call, next)

/-- The items that a loop visited, the number of the next call, and the paginator. -/
structure Visit (T : Type) where
  visited : List T
  call : Nat
  paginator : Paginator T

/-- The body of a range-for that breaks in its `limit`-th round. -/
def visitFrom (fetch : Nat → Fetch T) (pages : Nat) : Nat → Nat → Paginator T → Option (Visit T)
  | 0, call, paginator => some ⟨[], call, paginator⟩
  | limit + 1, call, paginator =>
      match paginator.buffer[paginator.bufferIndex]? with
      | none => some ⟨[], call, paginator⟩
      | some item =>
          if limit = 0 then some ⟨[item], call, paginator⟩
          else do
            let (call, next) ← advance fetch pages call paginator
            let rest ← visitFrom fetch pages limit call next
            some { rest with visited := item :: rest.visited }

def visit (fetch : Nat → Fetch T) (pages limit call : Nat) (paginator : Paginator T) : Option (Visit T) := do
  let (call, filled) ← begin_ fetch pages call paginator
  visitFrom fetch pages limit call filled

/-- A range-for that does not break. -/
def exhaust (fetch : Nat → Fetch T) (pages fuel call : Nat) (paginator : Paginator T) :
    Option (List T × Paginator T) := do
  let (call, filled) ← begin_ fetch pages call paginator
  iterate fetch pages fuel call filled

/-- Loops that break in the given rounds, then one that does not. -/
def loops (fetch : Nat → Fetch T) (pages fuel : Nat) : List Nat → Nat → Paginator T →
    Option (List (List T) × Paginator T)
  | [], call, paginator => do
      let (visited, last) ← exhaust fetch pages fuel call paginator
      some ([visited], last)
  | limit :: limits, call, paginator => do
      let left ← visit fetch pages limit call paginator
      let (others, last) ← loops fetch pages fuel limits left.call left.paginator
      some (left.visited :: others, last)

theorem items_eq_exhaust (fetch : Nat → Fetch T) (pages fuel : Nat) (paginator : Paginator T) :
    items fetch pages fuel paginator = exhaust fetch pages fuel 0 paginator := by
  unfold items exhaust begin_
  split
  · rfl
  · rfl

end Paginator

/-! ## Pages to come -/

/-- Successive calls, numbered from `call`, return these pages and then an end, with an
error or without. -/
inductive Pages (fetch : Nat → Fetch T) : Nat → Paginator T → List (List T) → Option SdkError → Prop where
  | ended {call : Nat} {paginator : Paginator T} : (paginator.nextPage (fetch call)).result = .ok none →
      Pages fetch call paginator [] none
  | failed {call : Nat} {paginator : Paginator T} {error : SdkError} :
      (paginator.nextPage (fetch call)).result = .error error → Pages fetch call paginator [] (some error)
  | page {call : Nat} {paginator : Paginator T} {batch : List T} {pages : List (List T)} {ending : Option SdkError} :
      (paginator.nextPage (fetch call)).result = .ok (some batch) →
      Pages fetch (call + 1) (paginator.nextPage (fetch call)).paginator pages ending →
      Pages fetch call paginator (batch :: pages) ending

/-- A step with another buffer in its paginator. -/
def PageStep.rebuffer (step : PageStep T) (buffer : List T) (bufferIndex : Nat) : PageStep T :=
  { step with paginator := { step.paginator with buffer, bufferIndex } }

namespace Paginator

section Buffers

variable (fetch : Fetch T) (paginator : Paginator T) (buffer : List T) (bufferIndex : Nat)

theorem nextCursorPage_buffered :
    ({ paginator with buffer, bufferIndex } : Paginator T).nextCursorPage fetch =
      (paginator.nextCursorPage fetch).rebuffer buffer bufferIndex := by
  unfold nextCursorPage
  dsimp only
  obtain ⟨outcome, cursor⟩ := paginator.cursor.beginPage
  cases outcome with
  | error text => rfl
  | ok more =>
      cases more with
      | false => rfl
      | true =>
          dsimp only
          cases fetch { cursor := cursor.cursor, limit := paginator.limit } with
          | error error => rfl
          | ok page =>
              dsimp only
              cases cursor.advance page.nextCursor with
              | error text => rfl
              | ok advanced => rfl

theorem nextOffsetPage_buffered :
    ({ paginator with buffer, bufferIndex } : Paginator T).nextOffsetPage fetch =
      (paginator.nextOffsetPage fetch).rebuffer buffer bufferIndex := by
  cases answered : fetch { offset := paginator.offset, limit := paginator.limit } with
  | error error =>
      unfold nextOffsetPage
      dsimp only
      rw [answered]
      rfl
  | ok page =>
      by_cases exceeding : paginator.limit < page.counted.getD (UInt64.ofNat page.items.length) ∨
          UInt64.ofNat page.items.length < page.counted.getD (UInt64.ofNat page.items.length)
      · unfold nextOffsetPage
        simp only [answered, if_pos exceeding, PageStep.rebuffer, fail]
      · rw [nextOffsetPage_eq answered exceeding]
        exact @nextOffsetPage_eq T fetch { paginator with buffer, bufferIndex } page answered exceeding

theorem nextNumberedPage_buffered :
    ({ paginator with buffer, bufferIndex } : Paginator T).nextNumberedPage fetch =
      (paginator.nextNumberedPage fetch).rebuffer buffer bufferIndex := by
  unfold nextNumberedPage
  dsimp only
  split
  · rfl
  · split
    · rfl
    · cases fetch { limit := paginator.limit, page := paginator.page } with
      | error error => rfl
      | ok page => rfl

/-- Calls do not look at the buffer. -/
theorem nextPage_buffered :
    ({ paginator with buffer, bufferIndex } : Paginator T).nextPage fetch =
      (paginator.nextPage fetch).rebuffer buffer bufferIndex := by
  cases paginator with
  | mk endpoint strategy limit cursor offset page pagesStarted maxOffset done truncated error _ _ =>
      unfold nextPage
      cases error with
      | some error => rfl
      | none =>
          cases done with
          | true => rfl
          | false =>
              cases strategy with
              | offset => exact nextOffsetPage_buffered ..
              | numbered => exact nextNumberedPage_buffered ..
              | cursor => exact nextCursorPage_buffered ..
              | keyset => exact nextCursorPage_buffered ..

theorem nextPage_bufferIndex : (paginator.nextPage fetch).paginator.bufferIndex = paginator.bufferIndex :=
  congrArg (fun step => step.paginator.bufferIndex)
    (nextPage_buffered fetch paginator paginator.buffer paginator.bufferIndex)

end Buffers

end Paginator

namespace Pages

variable {fetch : Nat → Fetch T} {call : Nat} {paginator : Paginator T} {pages : List (List T)}
  {ending : Option SdkError}

theorem buffered (come : Pages fetch call paginator pages ending) (buffer : List T) (bufferIndex : Nat) :
    Pages fetch call { paginator with buffer, bufferIndex } pages ending := by
  induction come with
  | ended returned =>
      apply ended
      rw [Paginator.nextPage_buffered]
      exact returned
  | failed returned =>
      apply failed
      rw [Paginator.nextPage_buffered]
      exact returned
  | page returned _ ih =>
      apply page
      · rw [Paginator.nextPage_buffered]
        exact returned
      · rw [Paginator.nextPage_buffered]
        exact ih

/-- Pages come to an end within the budget. -/
theorem exist (fetch : Nat → Fetch T) (call : Nat) {paginator : Paginator T} (good : paginator.Good) :
    ∃ pages ending, Pages fetch call paginator pages ending ∧ pages.length ≤ paginator.budget := by
  induction left : paginator.budget using Nat.strong_induction_on generalizing call paginator with
  | _ budget ih =>
      subst left
      cases returned : (paginator.nextPage (fetch call)).result with
      | error error => exact ⟨[], some error, failed returned, Nat.zero_le _⟩
      | ok outcome =>
          cases outcome with
          | none => exact ⟨[], none, ended returned, Nat.zero_le _⟩
          | some batch =>
              have less := Paginator.budget_lt_of_page good returned
              obtain ⟨pages, ending, come, few⟩ := ih _ less (call + 1) (Paginator.proceeds good (fetch call)).good rfl
              exact ⟨batch :: pages, ending, page returned come, by rw [List.length_cons]; omega⟩

/-- Behind the last page a call reports the end, and so do all others. -/
theorem settles (come : Pages fetch call paginator [] ending) (good : paginator.Good) (later : Nat) :
    (paginator.nextPage (fetch call)).paginator.error = ending ∧
      Pages fetch later (paginator.nextPage (fetch call)).paginator [] ending := by
  have step := Paginator.proceeds good (fetch call)
  cases come with
  | ended returned =>
      have settled := step.final (.inl returned)
      rw [returned] at settled
      refine ⟨?_, ended (by rw [Paginator.nextPage_settled settled])⟩
      unfold Paginator.settledResult at settled
      split at settled
      · cases settled
      · assumption
  | failed returned =>
      have settled := step.final (.inr ⟨_, returned⟩)
      rw [returned] at settled
      refine ⟨?_, failed (by rw [Paginator.nextPage_settled settled])⟩
      unfold Paginator.settledResult at settled
      split at settled
      · next found =>
        cases settled
        exact found
      · split at settled
        · cases settled
        · cases settled

end Pages

/-! ## The stream of an iterator -/

namespace Paginator

/-- The items that were fetched and not yet passed. -/
def buffered (paginator : Paginator T) : List T := paginator.buffer.drop paginator.bufferIndex

theorem buffered_nil_iff {paginator : Paginator T} :
    paginator.buffered = [] ↔ paginator.buffer.length ≤ paginator.bufferIndex := List.drop_eq_nil_iff

end Paginator

/-- The items that iterating still visits: those in the buffer, then those of the pages to
come. -/
structure Stream (fetch : Nat → Fetch T) (bound call : Nat) (paginator : Paginator T) (items : List T)
    (ending : Option SdkError) : Prop where
  good : paginator.Good
  come : ∃ pages, Pages fetch call paginator pages ending ∧ pages.length < bound ∧
    items = paginator.buffered ++ pages.flatten

/-- An iterator stands on the first item of the stream, or at its end. -/
structure Primed (fetch : Nat → Fetch T) (bound call : Nat) (paginator : Paginator T) (items : List T)
    (ending : Option SdkError) : Prop extends Stream fetch bound call paginator items ending where
  stands : paginator.buffered = [] → items = [] ∧ paginator.error = ending

variable {fetch : Nat → Fetch T} {bound call : Nat} {paginator : Paginator T} {items : List T}
  {ending : Option SdkError}

open Paginator

/-- Filling skips empty pages and stops at the first item. -/
theorem fillLoop_primed {pages : List (List T)} {fuel : Nat} (come : Pages fetch call paginator pages ending)
    (good : paginator.Good) (empty : paginator.buffer = []) (start : paginator.bufferIndex = 0)
    (few : pages.length < bound) (enough : pages.length < fuel) :
    ∃ next filled, fillLoop fetch fuel call paginator = some (next, filled) ∧
      Primed fetch bound next filled pages.flatten ending := by
  induction pages generalizing call paginator fuel with
  | nil =>
      obtain ⟨error, settled⟩ := come.settles good (call + 1)
      obtain ⟨fuel, rfl⟩ := Nat.exists_eq_succ_of_ne_zero (Nat.ne_of_gt enough)
      have step := proceeds good (fetch call)
      have nothing : (paginator.nextPage (fetch call)).paginator.buffered = [] := by
        rw [buffered, step.shape.buffer, empty, List.drop_nil]
      have primed : Primed fetch bound (call + 1) (paginator.nextPage (fetch call)).paginator [] ending :=
        { good := step.good
          come := ⟨[], settled, few, by rw [nothing]; rfl⟩
          stands := fun _ => ⟨rfl, error⟩ }
      refine ⟨call + 1, _, ?_, primed⟩
      unfold fillLoop
      cases come with
      | ended returned => simp only [returned]
      | failed returned => simp only [returned]
  | cons batch pages ih =>
      obtain ⟨fuel, rfl⟩ := Nat.exists_eq_succ_of_ne_zero (Nat.ne_of_gt (Nat.zero_lt_of_lt enough))
      cases come with
      | page returned come =>
          have step := proceeds good (fetch call)
          unfold fillLoop
          simp only [returned]
          have index := nextPage_bufferIndex (fetch call) paginator
          cases batch with
          | nil =>
              rw [List.flatten_cons, List.nil_append]
              exact ih come step.good (step.shape.buffer.trans empty) (index.trans start) (Nat.lt_of_succ_lt few)
                (Nat.lt_of_succ_lt_succ enough)
          | cons first others =>
              have primed : Primed fetch bound (call + 1)
                  { (paginator.nextPage (fetch call)).paginator with buffer := first :: others }
                  ((first :: others) ++ pages.flatten) ending :=
                { good := good_buffer step.good _ _
                  come := ⟨pages, come.buffered _ _, Nat.lt_of_succ_lt few, by
                    rw [buffered]
                    dsimp only
                    rw [index, start, List.drop_zero]⟩
                  stands := by
                    intro nothing
                    rw [buffered_nil_iff] at nothing
                    dsimp only at nothing
                    rw [index, start] at nothing
                    cases nothing }
              exact ⟨call + 1, _, rfl, primed⟩

theorem fillBuffer_primed {pages : List (List T)} (come : Pages fetch call paginator pages ending)
    (good : paginator.Good) (few : pages.length < bound) :
    ∃ next filled, fillBuffer fetch bound call paginator = some (next, filled) ∧
      Primed fetch bound next filled pages.flatten ending :=
  fillLoop_primed (come.buffered [] 0) (good_buffer good [] 0) rfl rfl few few

/-- `begin()` puts the iterator on the first item. -/
theorem Stream.begins (stream : Stream fetch bound call paginator items ending) :
    ∃ next filled, begin_ fetch bound call paginator = some (next, filled) ∧
      Primed fetch bound next filled items ending := by
  obtain ⟨pages, come, few, rfl⟩ := stream.come
  unfold begin_
  split
  · next past =>
    rw [buffered_nil_iff.mpr past, List.nil_append]
    exact fillBuffer_primed come stream.good few
  · next inside =>
    refine ⟨call, paginator, rfl, stream, fun nothing => absurd (buffered_nil_iff.mp nothing) inside⟩

/-- `operator++` passes one item. -/
theorem Primed.advances {item : T} (primed : Primed fetch bound call paginator (item :: items) ending) :
    ∃ next passed, advance fetch bound call paginator = some (next, passed) ∧
      Primed fetch bound next passed items ending := by
  obtain ⟨pages, come, few, split⟩ := primed.come
  have inside : paginator.bufferIndex < paginator.buffer.length := by
    apply Nat.lt_of_not_le
    intro past
    cases (primed.stands (buffered_nil_iff.mpr past)).1
  have passed : items =
      ({ paginator with bufferIndex := paginator.bufferIndex + 1 } : Paginator T).buffered ++ pages.flatten := by
    rw [buffered, List.drop_eq_getElem_cons inside, List.cons_append] at split
    exact (List.cons.inj split).2
  unfold advance
  dsimp only
  split
  · next past =>
    rw [buffered_nil_iff.mpr past, List.nil_append] at passed
    rw [passed]
    exact fillBuffer_primed (come.buffered paginator.buffer (paginator.bufferIndex + 1)) (good_buffer primed.good _ _) few
  · next more =>
    refine ⟨call, _, rfl, ⟨good_buffer primed.good _ _, pages, come.buffered _ _, few, passed⟩, ?_⟩
    exact fun nothing => absurd (buffered_nil_iff.mp nothing) more

/-- The item the iterator stands on. -/
theorem Primed.item {item : T} (primed : Primed fetch bound call paginator (item :: items) ending) :
    paginator.buffer[paginator.bufferIndex]? = some item := by
  obtain ⟨pages, come, few, split⟩ := primed.come
  have inside : paginator.bufferIndex < paginator.buffer.length := by
    apply Nat.lt_of_not_le
    intro past
    cases (primed.stands (buffered_nil_iff.mpr past)).1
  rw [buffered, List.drop_eq_getElem_cons inside, List.cons_append] at split
  rw [List.getElem?_eq_getElem inside, (List.cons.inj split).1]

theorem Primed.past (primed : Primed fetch bound call paginator [] ending) :
    paginator.buffer[paginator.bufferIndex]? = none ∧ paginator.error = ending := by
  have nothing : paginator.buffered = [] := by
    obtain ⟨pages, come, few, split⟩ := primed.come
    exact (List.append_eq_nil_iff.mp split.symm).1
  exact ⟨List.getElem?_eq_none (buffered_nil_iff.mp nothing), (primed.stands nothing).2⟩

/-! ## Whole loops -/

theorem iterate_step (fetch : Nat → Fetch T) (pages fuel call : Nat) (paginator : Paginator T) {item : T}
    (stands : paginator.buffer[paginator.bufferIndex]? = some item) :
    iterate fetch pages (fuel + 1) call paginator = (do
      let (call, next) ← advance fetch pages call paginator
      let (rest, last) ← iterate fetch pages fuel call next
      some (item :: rest, last)) := by
  rw [iterate, stands]
  unfold advance
  dsimp only
  split
  · rfl
  · rfl

theorem Primed.iterates {fuel : Nat} (primed : Primed fetch bound call paginator items ending)
    (enough : items.length < fuel) :
    ∃ last, iterate fetch bound fuel call paginator = some (items, last) ∧ last.error = ending := by
  induction items generalizing call paginator fuel with
  | nil =>
      obtain ⟨fuel, rfl⟩ := Nat.exists_eq_succ_of_ne_zero (Nat.ne_of_gt enough)
      refine ⟨paginator, ?_, primed.past.2⟩
      rw [iterate, primed.past.1]
  | cons item rest ih =>
      obtain ⟨fuel, rfl⟩ := Nat.exists_eq_succ_of_ne_zero (Nat.ne_of_gt (Nat.zero_lt_of_lt enough))
      obtain ⟨next, passed, advanced, primed'⟩ := primed.advances
      obtain ⟨last, iterated, error⟩ := ih primed' (Nat.lt_of_succ_lt_succ enough)
      refine ⟨last, ?_, error⟩
      rw [iterate_step fetch bound fuel call paginator primed.item, advanced, Option.bind_eq_bind, Option.bind_some]
      dsimp only
      rw [iterated]
      rfl

/-- What is left when a loop breaks in its `limit`-th round: the item of that round and
everything behind it; nothing when the loop ends before. -/
def remaining (limit : Nat) (items : List T) : List T :=
  if limit ≤ items.length then items.drop (limit - 1) else []

theorem remaining_cons {limit : Nat} (positive : limit ≠ 0) (item : T) (items : List T) :
    remaining (limit + 1) (item :: items) = remaining limit items := by
  obtain ⟨limit, rfl⟩ := Nat.exists_eq_succ_of_ne_zero positive
  simp [remaining]

theorem take_remaining (limit : Nat) (items : List T) :
    (items.take limit).take (limit - 1) ++ remaining limit items = items := by
  rw [List.take_take, min_eq_left (Nat.sub_le limit 1), remaining]
  split
  · exact List.take_append_drop (limit - 1) items
  · next short => rw [List.take_of_length_le (by omega), List.append_nil]

theorem length_remaining (limit : Nat) (items : List T) : (remaining limit items).length ≤ items.length := by
  rw [remaining]
  split
  · rw [List.length_drop]
    exact Nat.sub_le ..
  · exact Nat.zero_le _

theorem Primed.visits (primed : Primed fetch bound call paginator items ending) (limit : Nat) :
    ∃ left, visitFrom fetch bound limit call paginator = some left ∧ left.visited = items.take limit ∧
      Primed fetch bound left.call left.paginator (remaining limit items) ending := by
  induction limit generalizing call paginator items with
  | zero =>
      refine ⟨_, rfl, rfl, ?_⟩
      rwa [remaining, if_pos (Nat.zero_le _), List.drop_zero]
  | succ limit ih =>
      unfold visitFrom
      cases items with
      | nil =>
          rw [primed.past.1]
          exact ⟨_, rfl, rfl, primed⟩
      | cons item rest =>
          rw [primed.item]
          dsimp only
          by_cases here : limit = 0
          · subst here
            refine ⟨_, rfl, rfl, ?_⟩
            simpa [remaining] using primed
          · obtain ⟨next, passed, advanced, primed'⟩ := primed.advances
            obtain ⟨left, visited, items', still⟩ := ih primed'
            refine ⟨{ left with visited := item :: left.visited }, ?_, ?_, ?_⟩
            · rw [if_neg here, advanced, Option.bind_eq_bind, Option.bind_some, visited]
              rfl
            · rw [items', List.take_succ_cons]
            · rw [remaining_cons here]
              exact still

/-- What loops visit that break in these rounds, and one that does not. -/
def resumed : List Nat → List T → List (List T)
  | [], items => [items]
  | limit :: limits, items => items.take limit :: resumed limits (remaining limit items)

/-- The visits of loops one behind the other, without the item at each break. -/
def joined : List Nat → List (List T) → List T
  | limit :: limits, visited :: others => visited.take (limit - 1) ++ joined limits others
  | _, others => others.flatten

theorem joined_resumed (limits : List Nat) (items : List T) : joined limits (resumed limits items) = items := by
  induction limits generalizing items with
  | nil => simp [resumed, joined]
  | cons limit limits ih => rw [resumed, joined, ih, take_remaining]

theorem Stream.exhausts {fuel : Nat} (stream : Stream fetch bound call paginator items ending)
    (enough : items.length < fuel) :
    ∃ last, exhaust fetch bound fuel call paginator = some (items, last) ∧ last.error = ending := by
  obtain ⟨next, filled, begun, primed⟩ := stream.begins
  obtain ⟨last, iterated, error⟩ := primed.iterates enough
  refine ⟨last, ?_, error⟩
  rw [exhaust, begun]
  exact iterated

theorem Stream.visits (stream : Stream fetch bound call paginator items ending) (limit : Nat) :
    ∃ left, visit fetch bound limit call paginator = some left ∧ left.visited = items.take limit ∧
      Stream fetch bound left.call left.paginator (remaining limit items) ending := by
  obtain ⟨next, filled, begun, primed⟩ := stream.begins
  obtain ⟨left, visited, same, still⟩ := primed.visits limit
  refine ⟨left, ?_, same, still.toStream⟩
  rw [visit, begun]
  exact visited

/-- Every loop takes up the iteration at the item of the break before. -/
theorem Stream.loops {fuel : Nat} (stream : Stream fetch bound call paginator items ending)
    (enough : items.length < fuel) (limits : List Nat) :
    ∃ last, loops fetch bound fuel limits call paginator = some (resumed limits items, last) ∧
      last.error = ending := by
  induction limits generalizing call paginator items with
  | nil =>
      obtain ⟨last, exhausted, error⟩ := stream.exhausts enough
      refine ⟨last, ?_, error⟩
      rw [Paginator.loops, exhausted]
      rfl
  | cons limit limits ih =>
      obtain ⟨left, visited, same, still⟩ := stream.visits limit
      obtain ⟨last, others, error⟩ := ih still ((length_remaining limit items).trans_lt enough)
      refine ⟨last, ?_, error⟩
      rw [Paginator.loops, visited, Option.bind_eq_bind, Option.bind_some, others, same]
      rfl

/-! ## Collecting -/

/-- The paginator after one call and then others. -/
theorem pageRun_succ (fetch : Nat → Fetch T) (paginator : Paginator T) (calls : Nat) :
    (pageRun fetch paginator (calls + 1)).paginator =
      (pageRun (fun call => fetch (call + 1)) (paginator.nextPage (fetch 0)).paginator calls).paginator := by
  induction calls with
  | zero => rfl
  | succ calls ih =>
      rw [pageRun]
      dsimp only
      rw [ih]
      rfl

/-- What `collect` returns over a run with these items and this end. Without an argument its
bound is the largest size, which no vector reaches. -/
def collected (maxItems : Nat) (items : List T) (ending : Option SdkError) : Result (List T) :=
  if maxItems ≤ items.length then .ok (items.take maxItems)
  else match ending with
    | none => .ok items
    | some error => .error error

theorem collected_of_full {maxItems : Nat} {items : List T} (full : maxItems ≤ items.length)
    (ending : Option SdkError) : collected maxItems items ending = .ok (items.take maxItems) := if_pos full

/-- A batch that is cut at the bound is collected as the whole one. -/
theorem collected_cut (maxItems : Nat) (held batch rest : List T) (ending : Option SdkError) :
    collected maxItems (held ++ batch.take (maxItems - held.length) ++ rest) ending =
      collected maxItems (held ++ (batch ++ rest)) ending := by
  by_cases whole : batch.length ≤ maxItems - held.length
  · rw [List.take_of_length_le whole, List.append_assoc]
  · have cutFull : maxItems ≤ (held ++ batch.take (maxItems - held.length) ++ rest).length := by
      simp only [List.length_append, List.length_take]
      omega
    have full : maxItems ≤ (held ++ (batch ++ rest)).length := by
      simp only [List.length_append]
      omega
    rw [collected_of_full cutFull, collected_of_full full, Drains.take_append_take]

/-- `collect` with enough items, or one call before the end. -/
theorem collect_ends (come : Pages fetch call paginator [] ending) (maxItems fuel : Nat) (held : List T) :
    collect fetch maxItems (fuel + 1) call held paginator =
      if maxItems ≤ held.length then some (.ok held, paginator)
      else some (collected maxItems held ending, (paginator.nextPage (fetch call)).paginator) := by
  rw [collect]
  split
  · rfl
  · next short =>
    unfold collected
    rw [if_neg short]
    cases come with
    | ended returned => simp only [returned]
    | failed returned => simp only [returned]

/-- `collect` makes calls while it holds too few items. -/
theorem collects {pages : List (List T)} (come : Pages fetch call paginator pages ending) {maxItems fuel : Nat}
    {held : List T} (within : held.length ≤ maxItems) (enough : pages.length < fuel) :
    ∃ made last, collect fetch maxItems fuel call held paginator =
        some (collected maxItems (held ++ pages.flatten) ending, last) ∧
      last = (pageRun (fun later => fetch (call + later)) paginator made).paginator ∧
      ∀ earlier < made, (held ++ (pages.take earlier).flatten).length < maxItems := by
  induction pages generalizing call paginator fuel held with
  | nil =>
      obtain ⟨fuel, rfl⟩ := Nat.exists_eq_succ_of_ne_zero (Nat.ne_of_gt enough)
      rw [collect_ends come, List.flatten_nil, List.append_nil]
      by_cases full : maxItems ≤ held.length
      · refine ⟨0, paginator, ?_, rfl, fun _ impossible => absurd impossible (Nat.not_lt_zero _)⟩
        rw [if_pos full, collected_of_full full, List.take_of_length_le within]
      · refine ⟨1, _, by rw [if_neg full]; rfl, rfl, fun earlier _ => ?_⟩
        rw [List.take_nil, List.flatten_nil, List.append_nil]
        exact Nat.lt_of_not_le full
  | cons batch pages ih =>
      obtain ⟨fuel, rfl⟩ := Nat.exists_eq_succ_of_ne_zero (Nat.ne_of_gt (Nat.zero_lt_of_lt enough))
      cases come with
      | page returned come =>
          rw [collect, List.flatten_cons]
          by_cases full : maxItems ≤ held.length
          · refine ⟨0, paginator, ?_, rfl, fun _ impossible => absurd impossible (Nat.not_lt_zero _)⟩
            have longer : maxItems ≤ (held ++ (batch ++ pages.flatten)).length := by
              rw [List.length_append]
              omega
            rw [if_pos full, collected_of_full longer, le_antisymm full within, List.take_left]
          · have cut : (held ++ batch.take (maxItems - held.length)).length ≤ maxItems := by
              rw [List.length_append, List.length_take]
              omega
            have shifted : (fun later => fetch (call + 1 + later)) = fun later => fetch (call + (later + 1)) := by
              funext later
              rw [Nat.add_assoc, Nat.add_comm 1 later]
            obtain ⟨made, last, done, reached, few⟩ := ih come cut (Nat.lt_of_succ_lt_succ enough)
            refine ⟨made + 1, last, ?_, ?_, ?_⟩
            · simp only [if_neg full, returned]
              rw [done, collected_cut]
            · rw [reached, pageRun_succ, shifted]
              rfl
            · intro earlier before
              cases earlier with
              | zero =>
                  rw [List.take_zero, List.flatten_nil, List.append_nil]
                  exact Nat.lt_of_not_le full
              | succ earlier =>
                  have fewer := few earlier (Nat.lt_of_succ_lt_succ before)
                  rw [List.take_succ_cons, List.flatten_cons]
                  simp only [List.length_append, List.length_take] at fewer ⊢
                  omega

/-! ## Agreement -/

theorem Built.buffer (built : Built paginator) : paginator.buffer = [] := by
  cases built with
  | cursor made =>
      obtain ⟨base, constructed, made⟩ := bind_ok made
      obtain ⟨rfl, _⟩ := construct_ok constructed
      cases made
      rfl
  | keyset made =>
      obtain ⟨base, constructed, made⟩ := bind_ok made
      obtain ⟨rfl, _⟩ := construct_ok constructed
      cases made
      rfl
  | numbered made =>
      obtain ⟨base, constructed, made⟩ := bind_ok made
      obtain ⟨rfl, _⟩ := construct_ok constructed
      cases made
      rfl
  | offset made =>
      obtain ⟨base, constructed, made⟩ := bind_ok made
      obtain ⟨rfl, _⟩ := construct_ok constructed
      cases made
      rfl

/-- Calls leave nothing in the buffer. -/
theorem Built.unbuffered (built : Built paginator) (fetch : Nat → Fetch T) (calls : Nat) :
    (pageRun fetch paginator calls).paginator.buffered = [] := by
  have empty : (pageRun fetch paginator calls).paginator.buffer = [] := by
    induction calls with
    | zero => exact built.buffer
    | succ calls ih => exact (proceeds (runHolds built.good.1 fetch calls).good (fetch calls)).shape.buffer.trans ih
  rw [buffered, empty, List.drop_nil]

/-- From any paginator that was built and called, iterating visits the items of the pages to
come and ends with their error; collecting returns the same items, or as many as it may
keep, and calls for no page once it has them; and loops that are left take up the iteration
at the item of the break, so that no item is lost. -/
theorem items_collect_agree {start : Paginator T} (built : Built start) (earlier fetch : Nat → Fetch T) (calls : Nat) :
    ∃ pages ending, Pages fetch 0 (pageRun earlier start calls).paginator pages ending ∧
      (∀ bound fuel, pages.length < bound → pages.flatten.length < fuel →
        ∃ last, Paginator.items fetch bound fuel (pageRun earlier start calls).paginator = some (pages.flatten, last) ∧
          last.error = ending) ∧
      (∀ maxItems fuel, pages.length < fuel →
        ∃ made last, collect fetch maxItems fuel 0 [] (pageRun earlier start calls).paginator =
            some (collected maxItems pages.flatten ending, last) ∧
          last = (pageRun fetch (pageRun earlier start calls).paginator made).paginator ∧
          ∀ before < made, (pages.take before).flatten.length < maxItems) ∧
      ∀ limits bound fuel, pages.length < bound → pages.flatten.length < fuel →
        ∃ last, loops fetch bound fuel limits 0 (pageRun earlier start calls).paginator =
            some (resumed limits pages.flatten, last) ∧
          last.error = ending ∧ joined limits (resumed limits pages.flatten) = pages.flatten := by
  have good := (runHolds built.good.1 earlier calls).good
  have fresh := built.unbuffered earlier calls
  generalize (pageRun earlier start calls).paginator = paginator at good fresh ⊢
  obtain ⟨pages, ending, come, -⟩ := Pages.exist fetch 0 good
  have stream {bound : Nat} (few : pages.length < bound) : Stream fetch bound 0 paginator pages.flatten ending :=
    ⟨good, pages, come, few, by rw [fresh, List.nil_append]⟩
  refine ⟨pages, ending, come, ?_, ?_, ?_⟩
  · intro bound fuel few enough
    rw [items_eq_exhaust]
    exact (stream few).exhausts enough
  · intro maxItems fuel enough
    obtain ⟨made, last, done, reached, few⟩ := @collects T fetch 0 paginator ending pages come maxItems fuel [] (Nat.zero_le maxItems) enough
    refine ⟨made, last, done, ?_, few⟩
    simpa only [Nat.zero_add] using reached
  · intro limits bound fuel few enough
    obtain ⟨last, visited, error⟩ := (stream few).loops enough limits
    exact ⟨last, visited, error, joined_resumed limits pages.flatten⟩

/-- Two pages with an empty one between them, the last with a cursor that repeats. -/
def repeatingFetch : Fetch Nat := fun request =>
  match request.cursor with
  | "" => .ok { items := [1, 2], nextCursor := "b" }
  | "b" => .ok { items := [], nextCursor := "c" }
  | _ => .ok { items := [3], nextCursor := "b" }

def repeatingPaginator : Paginator Nat where
  endpoint := "/events"
  strategy := .keyset
  limit := 2
  cursor := .make "" "" true

theorem items_collect_agree_repeating :
    ∃ pages ending, Pages (fun _ => repeatingFetch) 0
      (pageRun (fun _ => repeatingFetch) repeatingPaginator 0).paginator pages ending :=
  have ⟨pages, ending, come, _⟩ := items_collect_agree
    (.keyset (rfl : keysetPaginator "/events" 2 {} = .ok repeatingPaginator)) (fun _ => repeatingFetch)
    (fun _ => repeatingFetch) 0
  ⟨pages, ending, come⟩

example : (loops (fun _ => repeatingFetch) 9 9 [2, 1] 0 repeatingPaginator).map
    (fun run => (run.1, run.2.error.map SdkError.message)) =
      some ([[1, 2], [2], [2, 3]], some "opaque cursor pagination cycle detected") := by decide

end Polymarket.Pagination
