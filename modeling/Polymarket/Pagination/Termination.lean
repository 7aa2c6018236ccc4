import Polymarket.Pagination.Calls

/-! Pagination ends whatever the answers are: a run makes a bounded number of requests,
none of them twice, and the loops over pages come to an end. -/

set_option autoImplicit false

namespace Polymarket.Pagination

variable {T : Type}

/-! ## Whole runs -/

/-- Made by one of the factories, from any limits and any resume token. -/
inductive Built : Paginator T → Prop where
  | cursor {endpoint initialCursor endCursor paginator} :
      cursorPaginator endpoint initialCursor endCursor = .ok paginator → Built paginator
  | keyset {endpoint limit resume paginator} :
      keysetPaginator endpoint limit resume = .ok paginator → Built paginator
  | numbered {endpoint limit resume paginator} :
      numberedPaginator endpoint limit resume = .ok paginator → Built paginator
  | offset {endpoint limit maxOffset startOffset paginator} :
      offsetPaginator endpoint limit maxOffset startOffset = .ok paginator → Built paginator

/-- How many pages a new paginator may request. -/
def fetchBound (paginator : Paginator T) : Nat :=
  match paginator.strategy with
  | .offset =>
      if paginator.offset ≤ paginator.maxOffset then
        (paginator.maxOffset.toNat - paginator.offset.toNat) / paginator.limit.toNat + 1
      else 0
  | .cursor | .keyset | .numbered => maxPages

theorem make_firstPage {initialCursor endCursor : String} {first : Bool}
    (without : (OpaqueCursorPagination.make initialCursor endCursor first).firstPageWithoutCursor = true) :
    (OpaqueCursorPagination.make initialCursor endCursor first).cursor = "" := by
  unfold OpaqueCursorPagination.make at without ⊢
  rw [Bool.and_eq_true] at without
  exact eq_of_beq without.2

theorem good_other {paginator : Paginator T} (other : paginator.strategy ≠ .offset)
    (firstPage : paginator.cursor.firstPageWithoutCursor = true → paginator.cursor.cursor = "") :
    paginator.Good := by
  constructor
  · exact firstPage
  · intro impossible
    exact absurd impossible other
  · intro impossible
    exact absurd impossible other

theorem budget_other {paginator : Paginator T} (other : paginator.strategy ≠ .offset) :
    paginator.budget ≤ maxPages := by
  cases settled : paginator.settledResult with
  | some result =>
      rw [Paginator.budget_settled (by rw [settled]; rfl)]
      exact Nat.zero_le _
  | none =>
      rw [Paginator.budget_open settled]
      cases strategy : paginator.strategy with
      | offset => exact absurd strategy other
      | numbered => exact Nat.sub_le ..
      | cursor => exact Nat.sub_le ..
      | keyset => exact Nat.sub_le ..

theorem Built.good {paginator : Paginator T} (built : Built paginator) :
    paginator.Good ∧ paginator.budget ≤ fetchBound paginator := by
  cases built with
  | cursor made =>
      obtain ⟨base, constructed, made⟩ := bind_ok made
      obtain ⟨rfl, _⟩ := construct_ok constructed
      cases made
      exact ⟨good_other (by simp) make_firstPage, budget_other (by simp)⟩
  | keyset made =>
      obtain ⟨base, constructed, made⟩ := bind_ok made
      obtain ⟨rfl, _⟩ := construct_ok constructed
      cases made
      exact ⟨good_other (by simp) make_firstPage, budget_other (by simp)⟩
  | numbered made =>
      obtain ⟨base, constructed, made⟩ := bind_ok made
      obtain ⟨rfl, _⟩ := construct_ok constructed
      cases made
      exact ⟨good_other (by simp) make_firstPage, budget_other (by simp)⟩
  | @offset endpoint limit maxOffset startOffset paginator made =>
      obtain ⟨base, constructed, made⟩ := bind_ok made
      obtain ⟨rfl, positive⟩ := construct_ok constructed
      cases made
      have limitPositive : 0 < limit.toNat := by
        apply Nat.pos_of_ne_zero
        intro zero
        exact positive (by decide) (UInt64.toNat_inj.mp zero)
      by_cases past : maxOffset < startOffset
      · constructor
        · constructor
          · exact make_firstPage
          · intro _
            exact limitPositive
          · intro _ impossible
            simp [Paginator.settledResult, past] at impossible
        · rw [Paginator.budget_settled (by simp [Paginator.settledResult, past])]
          exact Nat.zero_le _
      · have within := UInt64.not_lt.mp past
        constructor
        · constructor
          · exact make_firstPage
          · intro _
            exact limitPositive
          · intro _ _
            exact UInt64.le_iff_toNat_le.mp within
        · rw [Paginator.budget_open (by simp [Paginator.settledResult, past])]
          simp only [fetchBound, if_pos within, le_refl]

section Run

variable {paginator : Paginator T} (good : paginator.Good) (fetch : Nat → Fetch T)

/-- The step of one call in a run. -/
def pageStep (fetch : Nat → Fetch T) (paginator : Paginator T) (call : Nat) : PageStep T :=
  (pageRun fetch paginator call).paginator.nextPage (fetch call)

/-- What holds after every run of a good paginator. -/
structure RunHolds (paginator : Paginator T) (run : PageRun T) : Prop where
  good : run.paginator.Good
  strategy : run.paginator.strategy = paginator.strategy
  maxOffset : run.paginator.maxOffset = paginator.maxOffset
  budget : run.paginator.budget + run.requests.length ≤ paginator.budget
  spent : ∀ request ∈ run.requests, run.paginator.Spent request
  apart : run.requests.Pairwise fun earlier later => ¬SameTarget paginator.strategy earlier later
  within : paginator.strategy = .offset → ∀ request ∈ run.requests,
    request.offset.toNat ≤ paginator.maxOffset.toNat

include good

theorem runHolds (calls : Nat) : RunHolds paginator (pageRun fetch paginator calls) := by
  induction calls with
  | zero =>
      constructor
      · exact good
      · rfl
      · rfl
      · exact le_rfl
      · intro request impossible
        cases impossible
      · exact .nil
      · intro _ request impossible
        cases impossible
  | succ calls ih =>
      have step := Paginator.proceeds ih.good (fetch calls)
      constructor
      · exact step.good
      · exact step.shape.strategy.trans ih.strategy
      · exact step.shape.maxOffset.trans ih.maxOffset
      · have stepBudget := step.budget
        have budget := ih.budget
        rw [pageRun, List.length_append]
        dsimp only
        omega
      · intro request member
        obtain old | made := List.mem_append.mp member
        · exact step.kept request (ih.spent request old)
        · exact step.spent request (Option.mem_toList.mp made)
      · rw [pageRun]
        apply List.pairwise_append.mpr
        refine ⟨ih.apart, ?_, ?_⟩
        · generalize (Paginator.nextPage _ _).request = request
          cases request with
          | none => exact .nil
          | some request => exact List.pairwise_singleton ..
        · intro earlier old request made
          rw [← ih.strategy]
          exact step.fresh request (Option.mem_toList.mp made) earlier (ih.spent earlier old)
      · intro isOffset request member
        obtain old | made := List.mem_append.mp member
        · exact ih.within isOffset request old
        · obtain ⟨same, bounded⟩ := step.within request (Option.mem_toList.mp made) (ih.strategy.trans isOffset)
          rw [same, ← ih.maxOffset]
          exact bounded

/-- A final answer stays, and nothing is requested after it. -/
theorem final_stays {call later : Nat} (before : call < later) (final : Final (pageStep fetch paginator call).result) :
    (pageStep fetch paginator later).result = (pageStep fetch paginator call).result ∧
      (pageStep fetch paginator later).request = none := by
  have settled : ∀ calls, call < calls → (pageRun fetch paginator calls).paginator.settledResult =
      some (pageStep fetch paginator call).result := by
    intro calls after
    induction calls with
    | zero => cases after
    | succ calls ih =>
        obtain same | earlier := Nat.eq_or_lt_of_le (Nat.le_of_lt_succ after)
        · subst same
          exact (Paginator.proceeds (runHolds good fetch call).good (fetch call)).final final
        · rw [pageRun]
          dsimp only
          rw [Paginator.nextPage_settled (ih earlier)]
          exact ih earlier
  unfold pageStep
  rw [Paginator.nextPage_settled (settled later before)]
  exact ⟨rfl, rfl⟩

end Run

/-! ## Loops over pages -/

namespace Paginator

/-- A page takes one off the budget. -/
theorem budget_lt_of_page {paginator : Paginator T} (good : paginator.Good) {fetch : Fetch T} {batch : List T}
    (page : (paginator.nextPage fetch).result = .ok (some batch)) :
    (paginator.nextPage fetch).paginator.budget < paginator.budget := by
  have step := proceeds good fetch
  have budget := step.budget
  have requested := step.page batch page
  cases made : (paginator.nextPage fetch).request with
  | none =>
      rw [made] at requested
      cases requested
  | some request =>
      rw [made] at budget
      exact budget

theorem collect_terminates (fetch : Nat → Fetch T) (maxItems : Nat) {fuel call : Nat} {items : List T}
    {paginator : Paginator T} (good : paginator.Good) (enough : paginator.budget < fuel) :
    (collect fetch maxItems fuel call items paginator).isSome = true := by
  induction fuel generalizing call items paginator with
  | zero => cases enough
  | succ fuel ih =>
      unfold collect
      split
      · rfl
      · dsimp only
        split
        · rfl
        · rfl
        · next batch page =>
          have less := budget_lt_of_page good page
          exact ih (proceeds good (fetch call)).good (by omega)

theorem good_buffer {paginator : Paginator T} (good : paginator.Good) (buffer : List T) (bufferIndex : Nat) :
    ({ paginator with buffer, bufferIndex } : Paginator T).Good := by
  constructor
  · exact good.firstPage
  · exact good.limit
  · exact good.within

@[simp] theorem budget_buffer (paginator : Paginator T) (buffer : List T) (bufferIndex : Nat) :
    ({ paginator with buffer, bufferIndex } : Paginator T).budget = paginator.budget := rfl

/-- Filling the buffer ends. It has used up some of the budget, or found nothing. -/
theorem fillLoop_terminates (fetch : Nat → Fetch T) {fuel : Nat} (call : Nat) {paginator : Paginator T}
    (good : paginator.Good) (enough : paginator.budget < fuel) :
    ∃ next filled, fillLoop fetch fuel call paginator = some (next, filled) ∧ filled.Good ∧
      (filled.budget < paginator.budget ∨
        (filled.budget ≤ paginator.budget ∧ filled.buffer = paginator.buffer)) := by
  induction fuel generalizing call paginator with
  | zero => cases enough
  | succ fuel ih =>
      have step := proceeds good (fetch call)
      have notMore : (paginator.nextPage (fetch call)).paginator.budget ≤ paginator.budget := by
        have budget := step.budget
        omega
      have sameBuffer := step.shape.buffer
      unfold fillLoop
      dsimp only
      split
      · exact ⟨_, _, rfl, step.good, .inr ⟨notMore, sameBuffer⟩⟩
      · exact ⟨_, _, rfl, step.good, .inr ⟨notMore, sameBuffer⟩⟩
      · next page =>
        have less := budget_lt_of_page good page
        obtain ⟨next, filled, ended, filledGood, left⟩ := ih (call + 1) step.good (by omega)
        refine ⟨next, filled, ended, filledGood, .inl ?_⟩
        obtain fewer | ⟨atMost, _⟩ := left
        · omega
        · omega
      · next batch _ page =>
        exact ⟨_, _, rfl, good_buffer step.good .., .inl (budget_lt_of_page good page)⟩

theorem fillBuffer_terminates (fetch : Nat → Fetch T) {fuel : Nat} (call : Nat) {paginator : Paginator T}
    (good : paginator.Good) (enough : paginator.budget < fuel) :
    ∃ next filled, fillBuffer fetch fuel call paginator = some (next, filled) ∧ filled.Good ∧
      filled.budget ≤ paginator.budget ∧ (filled.budget < paginator.budget ∨ filled.buffer = []) := by
  obtain ⟨next, filled, ended, filledGood, left⟩ :=
    fillLoop_terminates fetch call (good_buffer good [] 0) (by rw [budget_buffer]; exact enough)
  rw [budget_buffer] at left
  refine ⟨next, filled, ended, filledGood, ?_, ?_⟩
  · obtain fewer | ⟨atMost, _⟩ := left
    · exact fewer.le
    · exact atMost
  · exact left.imp_right And.right

theorem iterate_ended (fetch : Nat → Fetch T) (pages call : Nat) {paginator : Paginator T}
    (ended : paginator.buffer.length ≤ paginator.bufferIndex) :
    iterate fetch pages 1 call paginator = some ([], paginator) := by
  rw [iterate, List.getElem?_eq_none ended]

/-- Every item shortens the buffer, and a filled buffer has used up some of the budget. -/
theorem iterate_terminates (fetch : Nat → Fetch T) {pages : Nat} (budget left call : Nat) {paginator : Paginator T}
    (good : paginator.Good) (enough : paginator.budget < pages) (sameBudget : paginator.budget = budget)
    (remaining : paginator.buffer.length - paginator.bufferIndex = left) :
    ∃ fuel, (iterate fetch pages fuel call paginator).isSome = true := by
  induction budget using Nat.strong_induction_on generalizing left call paginator with
  | _ budget ihBudget =>
      induction left generalizing call paginator with
      | zero =>
          use 1
          rw [iterate_ended fetch pages call (by omega)]
          rfl
      | succ left ihLeft =>
          have inside : paginator.bufferIndex < paginator.buffer.length := by omega
          have item := List.getElem?_eq_getElem inside
          let next : Paginator T := { paginator with bufferIndex := paginator.bufferIndex + 1 }
          have nextGood : next.Good := good_buffer good paginator.buffer (paginator.bufferIndex + 1)
          have nextBudget : next.budget = paginator.budget := budget_buffer paginator paginator.buffer _
          by_cases last : next.buffer.length ≤ next.bufferIndex
          · obtain ⟨nextCall, filled, ended, filledGood, atMost, left⟩ :=
              fillBuffer_terminates fetch call nextGood (by rw [nextBudget]; exact enough)
            have rest : ∃ fuel, (iterate fetch pages fuel nextCall filled).isSome = true := by
              obtain fewer | empty := left
              · exact ihBudget filled.budget (by omega) _ _ filledGood (by omega) rfl rfl
              · use 1
                rw [iterate_ended fetch pages nextCall (by simp [empty])]
                rfl
            obtain ⟨fuel, finished⟩ := rest
            obtain ⟨rest, iterated⟩ := Option.isSome_iff_exists.mp finished
            use fuel + 1
            rw [iterate, item]
            dsimp only
            rw [if_pos last, ended, Option.bind_eq_bind, Option.bind_some, iterated]
            rfl
          · obtain ⟨fuel, finished⟩ :=
              ihLeft call nextGood (by omega) (by omega) (by dsimp only [next] at last ⊢; omega)
            obtain ⟨rest, iterated⟩ := Option.isSome_iff_exists.mp finished
            use fuel + 1
            rw [iterate, item]
            dsimp only
            rw [if_neg last, iterated]
            rfl

theorem items_terminates (fetch : Nat → Fetch T) {paginator : Paginator T} (good : paginator.Good) :
    ∃ pages fuel, (items fetch pages fuel paginator).isSome = true := by
  use paginator.budget + 1
  unfold items
  by_cases empty : paginator.buffer.length ≤ paginator.bufferIndex
  · obtain ⟨call, filled, ended, filledGood, atMost, _⟩ :=
      fillBuffer_terminates fetch 0 good (Nat.lt_succ_self _)
    have enough : filled.budget < paginator.budget + 1 := by omega
    simp only [if_pos empty]
    rw [ended]
    exact iterate_terminates fetch _ _ call filledGood enough rfl rfl
  · simp only [if_neg empty]
    exact iterate_terminates fetch _ _ 0 good (Nat.lt_succ_self _) rfl rfl

end Paginator

/-- Whatever is answered, pagination ends: it makes few requests, none of them twice,
asks for nothing after a final answer, and every loop over its pages comes to an end. -/
theorem pagination_ends {paginator : Paginator T} (built : Built paginator) (fetch : Nat → Fetch T) :
    (∀ calls, (pageRun fetch paginator calls).requests.length ≤ fetchBound paginator) ∧
      (∀ calls, (pageRun fetch paginator calls).requests.Pairwise
        fun earlier later => ¬SameTarget paginator.strategy earlier later) ∧
      (paginator.strategy = .offset → ∀ calls, ∀ request ∈ (pageRun fetch paginator calls).requests,
        request.offset ≤ paginator.maxOffset) ∧
      (paginator.strategy = .offset → ∀ call, (pageStep fetch paginator call).request.isSome = true →
        (pageRun fetch paginator call).paginator.offset ≤ (pageRun fetch paginator call).paginator.maxOffset) ∧
      (∀ call later, call < later → Final (pageStep fetch paginator call).result →
        (pageStep fetch paginator later).result = (pageStep fetch paginator call).result ∧
          (pageStep fetch paginator later).request = none) ∧
      ∀ (calls : Nat) (buffer : List T) (bufferIndex : Nat) (answers : Nat → Fetch T),
        let stopped := { (pageRun fetch paginator calls).paginator with buffer, bufferIndex }
        (∀ maxItems call collected, ∃ fuel,
          (Paginator.collect answers maxItems fuel call collected stopped).isSome = true) ∧
        (∀ call, ∃ fuel, (Paginator.fillBuffer answers fuel call stopped).isSome = true) ∧
        ∃ pages fuel, (Paginator.items answers pages fuel stopped).isSome = true := by
  obtain ⟨good, bounded⟩ := built.good
  constructor
  · intro calls
    have budget := (runHolds good fetch calls).budget
    omega
  constructor
  · intro calls
    exact (runHolds good fetch calls).apart
  constructor
  · intro isOffset calls request made
    exact UInt64.le_iff_toNat_le.mpr ((runHolds good fetch calls).within isOffset request made)
  constructor
  · intro isOffset call requested
    have holds := runHolds good fetch call
    obtain ⟨request, made⟩ := Option.isSome_iff_exists.mp requested
    have step := Paginator.proceeds holds.good (fetch call)
    exact UInt64.le_iff_toNat_le.mpr (step.within request made (holds.strategy.trans isOffset)).2
  constructor
  · intro call later before final
    exact final_stays good fetch before final
  · intro calls buffer bufferIndex answers stopped
    have stoppedGood : stopped.Good := Paginator.good_buffer (runHolds good fetch calls).good buffer bufferIndex
    constructor
    · intro maxItems call collected
      use stopped.budget + 1
      exact Paginator.collect_terminates answers maxItems stoppedGood (Nat.lt_succ_self _)
    constructor
    · intro call
      obtain ⟨next, filled, ended, _⟩ := Paginator.fillBuffer_terminates answers call stoppedGood (Nat.lt_succ_self _)
      use stopped.budget + 1
      rw [ended]
      rfl
    · exact Paginator.items_terminates answers stoppedGood

/-- A server that answers the same cursor over and over. -/
theorem pagination_ends_cycle :
    ∃ paginator : Paginator Nat, keysetPaginator "/events" 20 {} = .ok paginator ∧
      ∀ calls, (pageRun (fun _ _ => .ok { items := [7], nextCursor := "again" }) paginator calls).requests.length ≤
        1000 :=
  ⟨_, rfl, (pagination_ends (.keyset (rfl : keysetPaginator "/events" 20 {} = .ok _)) _).1⟩

end Polymarket.Pagination
