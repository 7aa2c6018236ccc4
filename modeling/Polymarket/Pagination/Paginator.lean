import Polymarket.Decimal

/-! Lazy pagination: cursor, keyset, offset and numbered pages from one paginator.
Whoever answers a request may answer anything, and differently every time. -/

set_option autoImplicit false

namespace Polymarket.Pagination

inductive SdkErrorCode where
  | httpTransport
  | apiResponse
  | auth
  | depositWalletSetup
  | rateLimit
  | parse
  | signing
  | invalidArgument
  | insufficientLiquidity
  | timeout
  | transactionFailed
deriving DecidableEq, Repr

structure SdkError where
  code : SdkErrorCode
  message : String
  endpoint : String
deriving DecidableEq, Repr

abbrev Result (α : Type) := Except SdkError α

def makeParseError (message endpoint : String) : SdkError := ⟨.parse, message, endpoint⟩

/-! ## Opaque cursors -/

def maxPages : Nat := 1000

structure OpaqueCursorPagination where
  cursor : String
  endCursor : String
  firstPageWithoutCursor : Bool
  pagesStarted : Nat := 0
  seenCursors : List String := []
deriving DecidableEq, Repr

namespace OpaqueCursorPagination

def make (initialCursor endCursor : String) (firstPageWithoutCursor : Bool) : OpaqueCursorPagination where
  cursor := initialCursor
  endCursor := endCursor
  firstPageWithoutCursor := firstPageWithoutCursor && initialCursor == ""

def exhausted (pagination : OpaqueCursorPagination) : Bool :=
  !pagination.firstPageWithoutCursor && (pagination.cursor == "" || pagination.cursor == pagination.endCursor)

/-- Whether a page may be requested, or the text that is thrown. -/
def beginPage (pagination : OpaqueCursorPagination) : Except String Bool × OpaqueCursorPagination :=
  let firstPage := pagination.firstPageWithoutCursor
  let pagination := { pagination with firstPageWithoutCursor := false }
  if !firstPage && (pagination.cursor == "" || pagination.cursor == pagination.endCursor) then (.ok false, pagination)
  else if maxPages ≤ pagination.pagesStarted then
    (.error "opaque cursor pagination exceeded 1000 pages", pagination)
  else if !firstPage && pagination.seenCursors.contains pagination.cursor then
    (.error "opaque cursor pagination cycle detected", pagination)
  else
    (.ok true, { pagination with
      pagesStarted := pagination.pagesStarted + 1
      seenCursors := if firstPage then pagination.seenCursors else pagination.cursor :: pagination.seenCursors })

def advance (pagination : OpaqueCursorPagination) (nextCursor : String) : Except String OpaqueCursorPagination :=
  if nextCursor == "" || nextCursor == pagination.endCursor then
    .ok { pagination with cursor := pagination.endCursor }
  else if pagination.seenCursors.contains nextCursor then .error "opaque cursor pagination cycle detected"
  else .ok { pagination with cursor := nextCursor }

end OpaqueCursorPagination

/-! ## The paginator -/

structure PageRequest where
  cursor : String := ""
  offset : UInt64 := 0
  limit : UInt64 := 0
  page : UInt64 := 0
  exhausted : Bool := false
deriving DecidableEq, Repr

structure Page (T : Type) where
  items : List T
  nextCursor : String := ""
  counted : Option UInt64 := none
  hasMore : Bool := false

inductive Strategy where
  | cursor
  | keyset
  | offset
  | numbered
deriving DecidableEq, Repr

abbrev Fetch (T : Type) := PageRequest → Result (Page T)

/-- The cursor is engaged for cursor and keyset pagination only. -/
structure Paginator (T : Type) where
  endpoint : String
  strategy : Strategy
  limit : UInt64
  cursor : OpaqueCursorPagination := .make "" "" false
  offset : UInt64 := 0
  page : UInt64 := 0
  pagesStarted : Nat := 0
  maxOffset : UInt64 := 0
  done : Bool := false
  truncated : Bool := false
  error : Option SdkError := none
  buffer : List T := []
  bufferIndex : Nat := 0

variable {T : Type}

/-- The constructor, with a fetch that is set. -/
def construct (endpoint : String) (strategy : Strategy) (limit : UInt64) : Except CppError (Paginator T) :=
  if strategy ≠ .cursor ∧ limit = 0 then .error (.invalidArgument "pagination limit must be positive")
  else .ok { endpoint, strategy, limit }

def cursorPaginator (endpoint initialCursor endCursor : String) : Except CppError (Paginator T) := do
  let paginator ← construct endpoint .cursor 0
  .ok { paginator with cursor := .make initialCursor endCursor false }

def keysetPaginator (endpoint : String) (limit : UInt64) (resume : PageRequest) :
    Except CppError (Paginator T) := do
  let paginator ← construct endpoint .keyset limit
  .ok { paginator with cursor := .make resume.cursor "" true, done := resume.exhausted }

def numberedPaginator (endpoint : String) (limit : UInt64) (resume : PageRequest) :
    Except CppError (Paginator T) := do
  let paginator ← construct endpoint .numbered limit
  .ok { paginator with page := if resume.page = 0 then 1 else resume.page, done := resume.exhausted }

def offsetPaginator (endpoint : String) (limit maxOffset startOffset : UInt64) :
    Except CppError (Paginator T) := do
  let paginator ← construct endpoint .offset limit
  .ok { paginator with
    maxOffset
    offset := startOffset
    truncated := decide (maxOffset < startOffset)
    done := decide (maxOffset < startOffset) }

theorem construct_ok {endpoint : String} {strategy : Strategy} {limit : UInt64} {paginator : Paginator T}
    (constructed : construct endpoint strategy limit = .ok paginator) :
    paginator = { endpoint, strategy, limit } ∧ (strategy ≠ .cursor → limit ≠ 0) := by
  unfold construct at constructed
  split at constructed
  · cases constructed
  · next valid =>
    cases constructed
    exact ⟨rfl, fun other zero => valid ⟨other, zero⟩⟩

theorem construct_of_positive {limit : UInt64} (positive : limit ≠ 0) (endpoint : String) (strategy : Strategy) :
    construct (T := T) endpoint strategy limit = .ok { endpoint, strategy, limit } :=
  if_neg fun invalid => positive invalid.2

theorem keysetPaginator_ok {limit : UInt64} (positive : limit ≠ 0) (endpoint : String) (resume : PageRequest) :
    keysetPaginator (T := T) endpoint limit resume = .ok
      { endpoint, strategy := .keyset, limit, cursor := .make resume.cursor "" true, done := resume.exhausted } := by
  rw [keysetPaginator, construct_of_positive positive, ok_bind]

theorem numberedPaginator_ok {limit : UInt64} (positive : limit ≠ 0) (endpoint : String) (resume : PageRequest) :
    numberedPaginator (T := T) endpoint limit resume = .ok
      { endpoint, strategy := .numbered, limit, page := if resume.page = 0 then 1 else resume.page,
        done := resume.exhausted } := by
  rw [numberedPaginator, construct_of_positive positive, ok_bind]

theorem offsetPaginator_ok {limit : UInt64} (positive : limit ≠ 0) (endpoint : String) (maxOffset startOffset : UInt64) :
    offsetPaginator (T := T) endpoint limit maxOffset startOffset = .ok
      { endpoint, strategy := .offset, limit, maxOffset, offset := startOffset,
        truncated := decide (maxOffset < startOffset), done := decide (maxOffset < startOffset) } := by
  rw [offsetPaginator, construct_of_positive positive, ok_bind]

/-- What one call of `next_page` returns and leaves, and the request it made. -/
structure PageStep (T : Type) where
  result : Result (Option (List T))
  paginator : Paginator T
  request : Option PageRequest := none

namespace Paginator

def fail (paginator : Paginator T) (error : SdkError) (request : Option PageRequest) : PageStep T :=
  ⟨.error error, { paginator with error := some error }, request⟩

def nextCursorPage (fetch : Fetch T) (paginator : Paginator T) : PageStep T :=
  match paginator.cursor.beginPage with
  | (.error text, cursor) => { paginator with cursor }.fail (makeParseError text paginator.endpoint) none
  | (.ok false, cursor) => ⟨.ok none, { paginator with cursor, done := true }, none⟩
  | (.ok true, cursor) =>
      let request : PageRequest := { cursor := cursor.cursor, limit := paginator.limit }
      match fetch request with
      | .error error => { paginator with cursor }.fail error (some request)
      | .ok page =>
          match cursor.advance page.nextCursor with
          | .ok advanced =>
              ⟨.ok (some page.items), { paginator with cursor := advanced, done := advanced.exhausted }, some request⟩
          | .error text =>
              -- The page is returned; the next call reports the error.
              ⟨.ok (some page.items),
                { paginator with cursor, error := some (makeParseError text paginator.endpoint) }, some request⟩

def nextOffsetPage (fetch : Fetch T) (paginator : Paginator T) : PageStep T :=
  let request : PageRequest := { offset := paginator.offset, limit := paginator.limit }
  match fetch request with
  | .error error => paginator.fail error (some request)
  | .ok page =>
      let size := UInt64.ofNat page.items.length
      let counted := page.counted.getD size
      if paginator.limit < counted ∨ size < counted then
        paginator.fail (makeParseError ("page counts " ++ toString counted.toNat ++ " of " ++ toString size.toNat ++
          " items against limit " ++ toString paginator.limit.toNat) paginator.endpoint) (some request)
      else
        let shortPage := decide (counted < paginator.limit)
        let atOffsetCap := !shortPage && decide (paginator.maxOffset - paginator.offset < paginator.limit)
        let offset := if uint64Max - paginator.offset < counted then uint64Max else paginator.offset + counted
        ⟨.ok (some page.items),
          { paginator with
            offset
            done := paginator.done || shortPage || atOffsetCap
            truncated := paginator.truncated || atOffsetCap }, some request⟩

def nextNumberedPage (fetch : Fetch T) (paginator : Paginator T) : PageStep T :=
  if maxPages ≤ paginator.pagesStarted then
    paginator.fail (makeParseError "numbered pagination exceeded 1000 pages" paginator.endpoint) none
  else if paginator.page = uint64Max then
    paginator.fail (makeParseError "numbered pagination page overflow" paginator.endpoint) none
  else
    let started := { paginator with pagesStarted := paginator.pagesStarted + 1 }
    let request : PageRequest := { limit := paginator.limit, page := paginator.page }
    match fetch request with
    | .error error => started.fail error (some request)
    | .ok page =>
        ⟨.ok (some page.items), { started with page := paginator.page + 1, done := !page.hasMore }, some request⟩

def nextPage (fetch : Fetch T) (paginator : Paginator T) : PageStep T :=
  match paginator.error with
  | some error => ⟨.error error, paginator, none⟩
  | none =>
      if paginator.done then ⟨.ok none, paginator, none⟩
      else
        match paginator.strategy with
        | .offset => paginator.nextOffsetPage fetch
        | .numbered => paginator.nextNumberedPage fetch
        | .cursor | .keyset => paginator.nextCursorPage fetch

def resumeToken (paginator : Paginator T) : PageRequest :=
  let exhausted := paginator.done && paginator.error.isNone
  match paginator.strategy with
  | .cursor => { cursor := paginator.cursor.cursor }
  | .keyset => { cursor := paginator.cursor.cursor, limit := paginator.limit, exhausted }
  | .numbered => { limit := paginator.limit, page := paginator.page, exhausted }
  | .offset => { offset := paginator.offset, limit := paginator.limit }

/-! ## Loops over pages

The fetch is given for every call, so that answers may depend on all that has
happened. The loops stop when their fuel is used up. -/

def collect (fetch : Nat → Fetch T) (maxItems : Nat) : Nat → Nat → List T → Paginator T →
    Option (Result (List T) × Paginator T)
  | 0, _, _, _ => none
  | fuel + 1, call, items, paginator =>
      if maxItems ≤ items.length then some (.ok items, paginator)
      else
        let step := paginator.nextPage (fetch call)
        match step.result with
        | .error error => some (.error error, step.paginator)
        | .ok none => some (.ok items, step.paginator)
        | .ok (some batch) =>
            collect fetch maxItems fuel (call + 1) (items ++ batch.take (maxItems - items.length)) step.paginator

/-- The loop of `fill_buffer`, with the number of the next call. -/
def fillLoop (fetch : Nat → Fetch T) : Nat → Nat → Paginator T → Option (Nat × Paginator T)
  | 0, _, _ => none
  | fuel + 1, call, paginator =>
      let step := paginator.nextPage (fetch call)
      match step.result with
      | .error _ => some (call + 1, step.paginator)
      | .ok none => some (call + 1, step.paginator)
      | .ok (some []) => fillLoop fetch fuel (call + 1) step.paginator
      | .ok (some batch) => some (call + 1, { step.paginator with buffer := batch })

def fillBuffer (fetch : Nat → Fetch T) (fuel call : Nat) (paginator : Paginator T) : Option (Nat × Paginator T) :=
  fillLoop fetch fuel call { paginator with buffer := [], bufferIndex := 0 }

/-- The body of a range-for over `items()`, from an iterator that has been filled. -/
def iterate (fetch : Nat → Fetch T) (pages : Nat) : Nat → Nat → Paginator T → Option (List T × Paginator T)
  | 0, _, _ => none
  | fuel + 1, call, paginator =>
      match paginator.buffer[paginator.bufferIndex]? with
      | none => some ([], paginator)
      | some item =>
          let next := { paginator with bufferIndex := paginator.bufferIndex + 1 }
          if next.buffer.length ≤ next.bufferIndex then do
            let (call, filled) ← fillBuffer fetch pages call next
            let (rest, last) ← iterate fetch pages fuel call filled
            some (item :: rest, last)
          else do
            let (rest, last) ← iterate fetch pages fuel call next
            some (item :: rest, last)

def items (fetch : Nat → Fetch T) (pages fuel : Nat) (paginator : Paginator T) : Option (List T × Paginator T) :=
  if paginator.buffer.length ≤ paginator.bufferIndex then do
    let (call, filled) ← fillBuffer fetch pages 0 paginator
    iterate fetch pages fuel call filled
  else iterate fetch pages fuel 0 paginator

end Paginator

/-! ## Runs -/

/-- Results and requests of successive calls of `next_page`. -/
structure PageRun (T : Type) where
  results : List (Result (Option (List T)))
  requests : List PageRequest
  paginator : Paginator T

def pageRun (fetch : Nat → Fetch T) (paginator : Paginator T) : Nat → PageRun T
  | 0 => ⟨[], [], paginator⟩
  | calls + 1 =>
      let before := pageRun fetch paginator calls
      let step := before.paginator.nextPage (fetch calls)
      ⟨before.results ++ [step.result], before.requests ++ step.request.toList, step.paginator⟩

end Polymarket.Pagination
