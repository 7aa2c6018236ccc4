import Polymarket.Market.MessageOrder
import Polymarket.Market.Sequences

/-! Which items of a market message reach the books and the markets. The text of
the whole message decides which parser reads it, and the parser of tick sizes
reads no array. -/

set_option autoImplicit false

namespace Polymarket.Market

/-! ## Items -/

/-- The elements of an array, or the message itself. -/
def messageItems : Json → List Json
  | .array items => items
  | parsed => [parsed]

/-- A book of the token. -/
def IsBook (token : String) (item : Json) : Prop :=
  item.find? "event_type" = some (.string "book") ∧ item.find? "asset_id" = some (.string token)

/-- A price change that lists the change for the token. -/
def IsChange (token : String) (change item : Json) : Prop :=
  item.find? "event_type" = some (.string "price_change") ∧
    ∃ changes, item.find? "price_changes" = some changes ∧ change ∈ changes.elements ∧
      change.find? "asset_id" = some (.string token)

/-- A supported tick size for the token. -/
def IsTick (token tickSize : String) (item : Json) : Prop :=
  item.find? "event_type" = some (.string "tick_size_change") ∧
    item.find? "asset_id" = some (.string token) ∧
    item.find? "new_tick_size" = some (.string tickSize) ∧ supportedTickSize tickSize = true

/-- The token is mapped to a market of the runtime. -/
def Subscribed (runtime : OrderbookRuntime) (token : String) : Prop :=
  token ≠ "" ∧ ∃ conditionId market, runtime.tokenToCondition token = some conditionId ∧
    runtime.markets conditionId = some market

theorem value_of_find {item field : Json} {key : String} (found : item.find? key = some field)
    (default : String) : item.value Json.getString key default = field.getString := by
  cases item with
  | object members =>
      have looked : members.lookup key = some field := found
      simp only [Json.value, looked]
  | _ => cases found

theorem IsBook.not_change {token other : String} {item change : Json} (book : IsBook token item) :
    ¬IsChange other change item := by
  intro changes
  have same := book.1.symm.trans changes.1
  simp at same

theorem parseMarketTickSizeChange_tick {token tickSize : String} {item : Json} (named : token ≠ "")
    (tick : IsTick token tickSize item) :
    parseMarketTickSizeChange item = .ok (some ⟨token, tickSize⟩) := by
  obtain ⟨isTick, asset, size, supported⟩ := tick
  have isObject : item.isObject = true := by
    cases item with
    | object members => rfl
    | _ => cases isTick
  simp only [parseMarketTickSizeChange, isObject, Bool.not_true, Bool.false_eq_true, ↓reduceIte,
    value_of_find isTick, Json.getString, asset, size, named, supported, false_or]
  rfl

/-- An object of another type is no tick size change. -/
theorem parseMarketTickSizeChange_other {item : Json} {eventType : String}
    (typed : item.find? "event_type" = some (.string eventType)) (other : eventType ≠ "tick_size_change") :
    parseMarketTickSizeChange item = .ok none := by
  unfold parseMarketTickSizeChange
  split
  · rfl
  · rw [value_of_find typed]
    exact if_pos other

/-! ## What is applied -/

/-- The events of the items, each parsed on its own. -/
def eventsAlone (items : List Json) : List MarketBookEvent :=
  items.flatMap fun item => (handleItem [] item).toOption.getD []

/-- An item of the token finds a snapshot: it is cached, or its book comes earlier. -/
def SnapshotBefore (runtime : OrderbookRuntime) (token : String) (before : List Json) : Prop :=
  runtime.books.snapshotReady token = true ∨ ∃ earlier ∈ before, IsBook token earlier

/-- An update of the token finds a snapshot. -/
def SnapshotHandled (runtime : OrderbookRuntime) (token : String) (before : List MarketBookEvent) : Prop :=
  runtime.books.snapshotReady token = true ∨
    ∃ earlier ∈ before, earlier.assetId = token ∧ earlier.snapshot = true

/-- Each item for a subscribed token is applied, or for a book or a change a
resnapshot is requested. A book is applied by an update with its levels, a change by
an update that lists it, carries no book and finds a snapshot where the change itself
does. The books then hold for the token what the items leave one after the other. -/
structure ItemsApplied (runtime : OrderbookRuntime) (parsed : Json)
    (handled : OrderbookRuntime.Handled) : Prop where
  books : ∀ token, Subscribed runtime token → ∀ item ∈ messageItems parsed, IsBook token item →
    handled.resnapshot = true ∨ ∃ event, parseBook item = .ok event ∧
      ∃ update ∈ handled.updates, update.assetId = token ∧ update.snapshot = true ∧
        update.bids = event.bids ∧ update.asks = event.asks
  changes : ∀ token, Subscribed runtime token → ∀ before item after,
    messageItems parsed = before ++ item :: after → ∀ change, IsChange token change item →
      handled.resnapshot = true ∨ ∃ read, parsePriceChange change = .ok read ∧
        ∃ earlier update later, handled.updates = earlier ++ update :: later ∧
          update.assetId = token ∧ update.snapshot = false ∧ read ∈ update.changes ∧
          (SnapshotBefore runtime token before → SnapshotHandled runtime token earlier)
  effect : ∀ token, Subscribed runtime token → handled.resnapshot = true ∨
    handled.runtime.books.view token =
      (eventsOf token (eventsAlone (messageItems parsed))).foldl applyView (runtime.books.view token)
  ticks : ∀ token, Subscribed runtime token → ∀ item ∈ messageItems parsed,
    ∀ tickSize, IsTick token tickSize item →
      (⟨token, tickSize⟩ : MarketTickSizeChange) ∈ handled.ticks ∧
        ∃ conditionId market, runtime.tokenToCondition token = some conditionId ∧
          handled.runtime.markets conditionId = some market ∧ market.minimumTickSize = tickSize

/-- The first item of the token is a book. -/
def BookFirst (token : String) (items : List Json) : Prop :=
  ∃ before item after, items = before ++ item :: after ∧ IsBook token item ∧
    ∀ earlier ∈ before, ∀ change, ¬IsChange token change earlier

/-- The first item of the token is a price change. -/
def ChangeFirst (token : String) (items : List Json) : Prop :=
  ∃ before item after, items = before ++ item :: after ∧ (∃ change, IsChange token change item) ∧
    ∀ earlier ∈ before, ¬IsBook token earlier

/-- A price change of the token comes after a book of it. -/
def ChangeBehindBook (token : String) (items : List Json) : Prop :=
  ∃ before item after, items = before ++ item :: after ∧ (∃ earlier ∈ before, IsBook token earlier) ∧
    ∃ change, IsChange token change item

/-- The changes of a token reach the books: none if a book comes first, one behind a
book only on a cached snapshot, and those behind the last book leave its levels. -/
structure ChangesReach (runtime : OrderbookRuntime) (token : String) (items : List Json) : Prop where
  first : BookFirst token items → ∀ item ∈ items, ∀ change, ¬IsChange token change item
  behind : ChangeBehindBook token items → runtime.books.snapshotReady token = true
  settled : Settled token (eventsAlone items)

/-- The text names a tick size change: then the message is one, or has no item for
a subscribed token. It does not: then no item is one, and the parser rejects the
message or the changes of every subscribed token reach the books. -/
def ItemsRouted (runtime : OrderbookRuntime) (text : String) (parsed : Json) : Prop :=
  if OrderbookRuntime.occursIn "\"tick_size_change\"" text then
    ∀ token, Subscribed runtime token → ∀ item ∈ messageItems parsed,
      ¬IsBook token item ∧ (∀ change, ¬IsChange token change item) ∧
        (parsed.isArray = true → ∀ tickSize, ¬IsTick token tickSize item)
  else
    (∀ token, Subscribed runtime token → ∀ item ∈ messageItems parsed,
      ∀ tickSize, ¬IsTick token tickSize item) ∧
    ((∃ error, parseMarketBookEvents parsed = .error error) ∨
      ∀ token, Subscribed runtime token → ChangesReach runtime token (messageItems parsed))

theorem BookFirst.append {token : String} {front : List Json} (first : BookFirst token front)
    (back : List Json) : BookFirst token (front ++ back) := by
  obtain ⟨before, item, after, rfl, isBook, earlier⟩ := first
  exact ⟨before, item, after ++ back, by simp, isBook, earlier⟩

theorem ChangeFirst.append {token : String} {front : List Json} (first : ChangeFirst token front)
    (back : List Json) : ChangeFirst token (front ++ back) := by
  obtain ⟨before, item, after, rfl, isChange, earlier⟩ := first
  exact ⟨before, item, after ++ back, by simp, isChange, earlier⟩

theorem ChangeFirst.not_bookFirst {token : String} {items : List Json} (change : ChangeFirst token items) :
    ¬BookFirst token items := by
  intro book
  obtain ⟨before, item, after, rfl, ⟨listed, isChange⟩, noBook⟩ := change
  obtain ⟨front, other, back, same, isBook, noChange⟩ := book
  obtain ⟨middle, extends_, rest⟩ | ⟨middle, extends_, rest⟩ := List.append_eq_append_iff.mp same
  · cases middle with
    | nil =>
        cases rest
        exact isBook.not_change isChange
    | cons head tail =>
        cases rest
        exact noChange item (by simp [extends_]) listed isChange
  · cases middle with
    | nil =>
        cases rest
        exact isBook.not_change isChange
    | cons head tail =>
        cases rest
        exact noBook other (by simp [extends_]) isBook

/-! ## Parsed items -/

theorem handleChanges_read {changes : List Json} {events result : List MarketBookEvent} {token : String}
    (named : token ≠ "") (read : handleChanges changes events = .ok result) {change : Json}
    (member : change ∈ changes) (asset : change.find? "asset_id" = some (.string token)) :
    ∃ entry, parsePriceChange change = .ok entry ∧ (token, entry) ∈ changes.filterMap changeEntry := by
  induction changes generalizing events with
  | nil => cases member
  | cons first rest ih =>
      obtain ⟨middle, readFirst, read⟩ := bind_ok read
      obtain rfl | later := List.mem_cons.mp member
      · unfold handleChange at readFirst
        split at readFirst
        · cases readFirst
        · rw [asset] at readFirst
          obtain ⟨assetId, isText, readFirst⟩ := bind_ok readFirst
          cases isText
          rw [if_neg named] at readFirst
          obtain ⟨entry, readEntry, _⟩ := bind_ok readFirst
          refine ⟨entry, readEntry, List.mem_filterMap.mpr ⟨change, member, ?_⟩⟩
          simp only [changeEntry, asset, readEntry, named, ↓reduceIte]
      · obtain ⟨entry, readEntry, listed⟩ := ih read later
        exact ⟨entry, readEntry, List.filterMap_subset _ (List.subset_cons_self ..) listed⟩

theorem find_of_value {item : Json} {key text : String}
    (read : item.value Json.getString key "" = .ok text) (present : text ≠ "") :
    item.find? key = some (.string text) := by
  cases item with
  | object members =>
      simp only [Json.value] at read
      split at read
      · next member found =>
        cases member with
        | string value =>
            cases read
            exact found
        | _ => cases read
      · cases read
        exact absurd rfl present
  | _ => cases read

theorem parseBook_asset {item : Json} {event : MarketBookEvent} (read : parseBook item = .ok event) :
    item.find? "asset_id" = some (.string event.assetId) := by
  unfold parseBook at read
  split at read
  · next assetId found =>
    split at read
    · cases read
    · obtain ⟨_, same, _⟩ := parseSnapshot_ok read
      rw [found, same]
  · cases read

theorem changeEntry_asset {change : Json} {entry : String × MarketPriceChange}
    (listed : changeEntry change = some entry) : change.find? "asset_id" = some (.string entry.1) := by
  unfold changeEntry at listed
  split at listed
  · next found _ =>
    split at listed
    · cases listed
    · cases listed
      exact found
  · cases listed

/-- What accepted changes do to the events of a token. -/
theorem handleChanges_token {changes : List Json} {events result : List MarketBookEvent} {token : String}
    (named : token ≠ "") (read : handleChanges changes events = .ok result) :
    ∃ entries, eventsOf token result = joinChanges token entries (eventsOf token events) ∧
      (∀ change ∈ changes, change.find? "asset_id" = some (.string token) →
        ∃ entry ∈ entries, parsePriceChange change = .ok entry) ∧
      (entries ≠ [] → ∃ change ∈ changes, change.find? "asset_id" = some (.string token)) := by
  have added := handleChanges_reads read events
  rw [read] at added
  cases added
  refine ⟨_, eventsOf_changes token _ events, ?_, ?_⟩
  · intro change member asset
    obtain ⟨entry, readEntry, listed⟩ := handleChanges_read named read member asset
    exact ⟨entry, by simpa [changesOf] using listed, readEntry⟩
  · intro nonempty
    obtain ⟨entry, listed⟩ := List.exists_mem_of_ne_nil _ nonempty
    obtain ⟨⟨asset, change'⟩, kept, rfl⟩ := List.mem_map.mp listed
    obtain ⟨member, isToken⟩ := List.mem_filter.mp kept
    obtain ⟨change, isListed, isEntry⟩ := List.mem_filterMap.mp member
    obtain rfl : asset = token := by simpa using isToken
    exact ⟨change, isListed, changeEntry_asset isEntry⟩

/-- What an accepted item does to the events of a token. -/
theorem handleItem_token {item : Json} {events result : List MarketBookEvent} {token : String}
    (named : token ≠ "") (read : handleItem events item = .ok result) :
    (IsBook token item ∧ ∃ event, parseBook item = .ok event ∧
        eventsOf token result = eventsOf token events ++ [event]) ∨
      (¬IsBook token item ∧ ∃ entries,
        eventsOf token result = joinChanges token entries (eventsOf token events) ∧
        (∀ change, IsChange token change item → ∃ entry ∈ entries, parsePriceChange change = .ok entry) ∧
        (entries ≠ [] → ∃ change, IsChange token change item)) := by
  obtain ⟨eventType, readType, read⟩ := bind_ok read
  have ofType : ∀ text, item.find? "event_type" = some (.string text) → text = eventType := by
    intro text found
    rw [value_of_find found] at readType
    exact Except.ok.inj readType
  split at read
  · next isBook =>
    have typed := find_of_value readType (by simp [isBook])
    rw [isBook] at typed
    obtain ⟨event, readBook, read⟩ := bind_ok read
    cases read
    have asset := parseBook_asset readBook
    by_cases same : event.assetId = token
    · left
      rw [same] at asset
      exact ⟨⟨typed, asset⟩, event, readBook, by simp [eventsOf, same]⟩
    · right
      constructor
      · intro book
        exact same (by simpa [asset] using book.2)
      · refine ⟨[], ?_, ?_, by simp⟩
        · rw [joinChanges_nil]
          simp [eventsOf, same]
        · intro change isChange
          exact absurd isChange (IsBook.not_change ⟨typed, asset⟩)
  · next notBook =>
    right
    constructor
    · intro book
      exact notBook (ofType _ book.1).symm
    · split at read
      · next isChange =>
        have typed := find_of_value readType (by simp [isChange])
        rw [isChange] at typed
        split at read
        · next changes found =>
          obtain ⟨entries, joined, listed, only⟩ := handleChanges_token named read
          refine ⟨entries, joined, ?_, ?_⟩
          · intro change isChange
            obtain ⟨_, others, foundOthers, member, asset⟩ := isChange
            cases found.symm.trans foundOthers
            exact listed change member asset
          · intro nonempty
            obtain ⟨change, member, asset⟩ := only nonempty
            exact ⟨change, typed, changes, found, member, asset⟩
        · next missing =>
          cases read
          refine ⟨[], (joinChanges_nil ..).symm, ?_, by simp⟩
          intro change isChange
          obtain ⟨_, changes, found, _⟩ := isChange
          cases missing.symm.trans found
      · next notChange =>
        cases read
        refine ⟨[], (joinChanges_nil ..).symm, ?_, by simp⟩
        intro change isChange
        exact absurd (ofType _ isChange.1).symm notChange

/-! ## Collected events -/

/-- The events of a token after some items: its books are listed, its changes are
in the first event, and only the first may be none of a book. -/
structure Collected (token : String) (items : List Json) (events : List MarketBookEvent) : Prop where
  books : ∀ item ∈ items, IsBook token item → ∃ event, parseBook item = .ok event ∧
    ∃ update ∈ events, update.snapshot = true ∧ update.bids = event.bids ∧ update.asks = event.asks
  changes : ∀ item ∈ items, ∀ change, IsChange token change item →
    ∃ entry, parsePriceChange change = .ok entry ∧ ∃ first ∈ events.head?, entry ∈ first.changes
  later : ∀ event ∈ events.tail, event.snapshot = true
  bookFirst : ∀ first ∈ events.head?, first.snapshot = true → BookFirst token items
  changeFirst : ∀ first ∈ events.head?, first.snapshot = false → ChangeFirst token items

theorem Collected.nil (token : String) : Collected token [] [] where
  books := by simp
  changes := by simp
  later := by simp
  bookFirst := by simp
  changeFirst := by simp

theorem Collected.book {token : String} {items : List Json} {events : List MarketBookEvent} {item : Json}
    {event : MarketBookEvent} (collected : Collected token items events) (isBook : IsBook token item)
    (read : parseBook item = .ok event) : Collected token (items ++ [item]) (events ++ [event]) := by
  obtain ⟨_, _, snapshot, _⟩ := parseBook_ok read
  constructor
  · intro other member otherBook
    obtain before | isItem := List.mem_append.mp member
    · obtain ⟨found, readOther, update, listed, same⟩ := collected.books other before otherBook
      exact ⟨found, readOther, update, List.mem_append_left _ listed, same⟩
    · obtain rfl := List.mem_singleton.mp isItem
      exact ⟨event, read, event, by simp, snapshot, rfl, rfl⟩
  · intro other member change isChange
    obtain before | isItem := List.mem_append.mp member
    · obtain ⟨entry, readEntry, first, isFirst, listed⟩ := collected.changes other before change isChange
      exact ⟨entry, readEntry, first, by simp [List.head?_append, Option.mem_def.mp isFirst], listed⟩
    · obtain rfl := List.mem_singleton.mp isItem
      exact absurd isChange isBook.not_change
  · intro other member
    cases events with
    | nil => cases member
    | cons first rest =>
        obtain before | isEvent := List.mem_append.mp member
        · exact collected.later other before
        · obtain rfl := List.mem_singleton.mp isEvent
          exact snapshot
  · intro first isFirst isSnapshot
    cases events with
    | nil =>
        refine ⟨items, item, [], rfl, isBook, ?_⟩
        intro earlier member change isChange
        obtain ⟨_, _, _, impossible, _⟩ := collected.changes earlier member change isChange
        cases impossible
    | cons head rest => exact (collected.bookFirst first isFirst isSnapshot).append [item]
  · intro first isFirst delta
    cases events with
    | nil =>
        cases isFirst
        rw [snapshot] at delta
        cases delta
    | cons head rest => exact (collected.changeFirst first isFirst delta).append [item]

/-- Without events no item names the token. -/
theorem Collected.unlisted {token : String} {items : List Json} (collected : Collected token items []) :
    ∀ item ∈ items, ¬IsBook token item ∧ ∀ change, ¬IsChange token change item := by
  intro item member
  constructor
  · intro isBook
    obtain ⟨_, _, _, impossible, _⟩ := collected.books item member isBook
    cases impossible
  · intro change isChange
    obtain ⟨_, _, _, impossible, _⟩ := collected.changes item member change isChange
    cases impossible

/-- The first event of a token is one of its changes. -/
theorem Collected.joinedFirst {token : String} {items : List Json} {item : Json}
    {entries : List MarketPriceChange} (collected : Collected token items []) (noBook : ¬IsBook token item)
    (listed : ∀ change, IsChange token change item → ∃ entry ∈ entries, parsePriceChange change = .ok entry)
    (only : entries ≠ [] → ∃ change, IsChange token change item) :
    Collected token (items ++ [item]) (joinChanges token entries []) := by
  have noBooks : ∀ other ∈ items ++ [item], ¬IsBook token other := by
    intro other member
    obtain before | isItem := List.mem_append.mp member
    · exact (collected.unlisted other before).1
    · obtain rfl := List.mem_singleton.mp isItem
      exact noBook
  have changed : ∀ other ∈ items ++ [item], ∀ change, IsChange token change other →
      ∃ entry ∈ entries, parsePriceChange change = .ok entry := by
    intro other member change isChange
    obtain before | isItem := List.mem_append.mp member
    · exact absurd isChange ((collected.unlisted other before).2 change)
    · obtain rfl := List.mem_singleton.mp isItem
      exact listed change isChange
  by_cases nothing : entries = []
  · simp only [joinChanges, nothing, ↓reduceIte]
    constructor
    · intro other member otherBook
      exact absurd otherBook (noBooks other member)
    · intro other member change isChange
      obtain ⟨entry, held, _⟩ := changed other member change isChange
      rw [nothing] at held
      cases held
    · simp
    · simp
    · simp
  · simp only [joinChanges, nothing, ↓reduceIte]
    constructor
    · intro other member otherBook
      exact absurd otherBook (noBooks other member)
    · intro other member change isChange
      obtain ⟨entry, held, readEntry⟩ := changed other member change isChange
      exact ⟨entry, readEntry, _, rfl, held⟩
    · simp
    · intro first isFirst isSnapshot
      cases isFirst
      cases isSnapshot
    · intro first isFirst delta
      exact ⟨items, item, [], rfl, only nothing, fun other member => (collected.unlisted other member).1⟩

theorem Collected.joined {token : String} {items : List Json} {events : List MarketBookEvent} {item : Json}
    {entries : List MarketPriceChange} (collected : Collected token items events)
    (noBook : ¬IsBook token item)
    (listed : ∀ change, IsChange token change item → ∃ entry ∈ entries, parsePriceChange change = .ok entry)
    (only : entries ≠ [] → ∃ change, IsChange token change item) :
    Collected token (items ++ [item]) (joinChanges token entries events) := by
  cases events with
  | nil => exact collected.joinedFirst noBook listed only
  | cons head rest =>
      constructor
      · intro other member otherBook
        obtain before | isItem := List.mem_append.mp member
        · obtain ⟨event, readOther, update, isListed, same⟩ := collected.books other before otherBook
          obtain rfl | isRest := List.mem_cons.mp isListed
          · exact ⟨event, readOther, _, List.mem_cons_self .., same⟩
          · exact ⟨event, readOther, update, List.mem_cons_of_mem _ isRest, same⟩
        · obtain rfl := List.mem_singleton.mp isItem
          exact absurd otherBook noBook
      · intro other member change isChange
        obtain before | isItem := List.mem_append.mp member
        · obtain ⟨entry, readEntry, first, isFirst, isListed⟩ := collected.changes other before change isChange
          cases isFirst
          exact ⟨entry, readEntry, _, rfl, List.mem_append_left _ isListed⟩
        · obtain rfl := List.mem_singleton.mp isItem
          obtain ⟨entry, isListed, readEntry⟩ := listed change isChange
          exact ⟨entry, readEntry, _, rfl, List.mem_append_right _ isListed⟩
      · exact collected.later
      · intro first isFirst isSnapshot
        cases isFirst
        exact (collected.bookFirst head rfl isSnapshot).append [item]
      · intro first isFirst delta
        cases isFirst
        exact (collected.changeFirst head rfl delta).append [item]

theorem collected_handleItems {token : String} (named : token ≠ "") {items before : List Json}
    {events result : List MarketBookEvent} (collected : Collected token before (eventsOf token events))
    (read : handleItems items events = .ok result) :
    Collected token (before ++ items) (eventsOf token result) := by
  induction items generalizing before events with
  | nil =>
      cases read
      rw [List.append_nil]
      exact collected
  | cons item rest ih =>
      obtain ⟨middle, readItem, read⟩ := bind_ok read
      rw [List.append_cons]
      apply ih _ read
      obtain ⟨isBook, event, readBook, added⟩ | ⟨noBook, entries, joined, listed, only⟩ :=
        handleItem_token named readItem
      · rw [added]
        exact collected.book isBook readBook
      · rw [joined]
        exact collected.joined noBook listed only

theorem handleItems_messageItems {parsed : Json} {events : List MarketBookEvent}
    (read : parseMarketBookEvents parsed = .ok events) : handleItems (messageItems parsed) [] = .ok events := by
  cases parsed with
  | array items => exact read
  | _ =>
      have item : handleItem [] _ = .ok events := read
      simp only [messageItems, handleItems, item]
      rfl

theorem collected_parsed {token : String} (named : token ≠ "") {parsed : Json}
    {events : List MarketBookEvent} (read : parseMarketBookEvents parsed = .ok events) :
    Collected token (messageItems parsed) (eventsOf token events) :=
  collected_handleItems named (.nil token) (handleItems_messageItems read)

/-- An update of the token that is no book comes before its other updates. -/
theorem Collected.delta_first {token : String} {items : List Json} {earlier later : List MarketBookEvent}
    {update : MarketBookEvent} (collected : Collected token items (eventsOf token (earlier ++ update :: later)))
    (asset : update.assetId = token) (delta : update.snapshot = false) : eventsOf token earlier = [] := by
  cases front : eventsOf token earlier with
  | nil => rfl
  | cons first rest =>
      have behind : update ∈ (eventsOf token (earlier ++ update :: later)).tail := by
        rw [eventsOf_append, front]
        simp [eventsOf, asset]
      have snapshot := collected.later update behind
      simp [delta] at snapshot

/-! ## Items on their own -/

theorem eventsAlone_accepted {items : List Json} {before events : List MarketBookEvent}
    (accepted : handleItems items before = .ok events) : eventsAlone items = separateEvents items := by
  induction items generalizing before with
  | nil => rfl
  | cons item rest ih =>
      obtain ⟨middle, readItem, read⟩ := bind_ok accepted
      have own := parseMarketBookEvents_item readItem
      simp only [eventsAlone, separateEvents, List.flatMap_cons, own]
      exact congrArg _ (ih read)

/-- Items without a book or a change of the token add nothing to it. -/
theorem eventsAlone_irrelevant {token : String} (named : token ≠ "") {items : List Json}
    (irrelevant : ∀ item ∈ items, ¬IsBook token item ∧ ∀ change, ¬IsChange token change item) :
    eventsOf token (eventsAlone items) = [] := by
  induction items with
  | nil => rfl
  | cons item rest ih =>
      obtain ⟨⟨noBook, noChange⟩, irrelevantRest⟩ := List.forall_mem_cons.mp irrelevant
      have listed : eventsAlone (item :: rest) = (handleItem [] item).toOption.getD [] ++ eventsAlone rest := by
        simp [eventsAlone]
      rw [listed, eventsOf_append, ih irrelevantRest, List.append_nil]
      cases read : handleItem [] item with
      | error error => rfl
      | ok events =>
          obtain ⟨isBook, _⟩ | ⟨_, entries, joined, _, only⟩ := handleItem_token named read
          · exact absurd isBook noBook
          · by_cases nothing : entries = []
            · rw [nothing, joinChanges_nil] at joined
              exact joined
            · obtain ⟨change, isChange⟩ := only nothing
              exact absurd isChange (noChange change)

/-- The events of a message leave what its items leave one after the other exactly
when the changes behind the last book leave its levels. -/
theorem eventsOf_alone_iff {token : String} {parsed : Json} {events : List MarketBookEvent}
    (read : parseMarketBookEvents parsed = .ok events) (view : Option Sides × Bool) :
    (eventsOf token events).foldl applyView view =
        (eventsOf token (eventsAlone (messageItems parsed))).foldl applyView view ↔
      Settled token (eventsAlone (messageItems parsed)) := by
  have items := handleItems_messageItems read
  rw [eventsAlone_accepted items]
  have together := @joined_handleItems token (messageItems parsed) [] events [] items (.nil token)
  exact together.same_iff view

/-! ## Updates -/

section Updates

variable {runtime : OrderbookRuntime} {token conditionId : String} {generation websocketGeneration : Nat}

/-- An update of the current stream moves the levels of its token and leaves the
mapping and the stream as they are. -/
theorem handleOrderbookUpdate_view {event : MarketBookEvent} (formed : event.WellFormed)
    (maps : runtime.tokenToCondition token = some conditionId)
    (current : runtime.streamIsCurrent generation websocketGeneration = true) (receivedNs : UInt64) :
    let updated := (runtime.handleOrderbookUpdate event receivedNs generation websocketGeneration).1
    updated.books.view token = (if event.assetId = token then applyView (runtime.books.view token) event
      else runtime.books.view token) ∧
      updated.tokenToCondition = runtime.tokenToCondition ∧
      updated.streamIsCurrent generation websocketGeneration = true := by
  have moved := view_applyStreamBookEvent formed runtime.books receivedNs token
  simp only [OrderbookRuntime.handleOrderbookUpdate, current, Bool.not_true, Bool.false_eq_true, ↓reduceIte]
  split
  · next unmapped =>
    have other : event.assetId ≠ token := by
      rintro rfl
      simp [unmapped] at maps
    exact ⟨(if_neg other).symm, rfl, current⟩
  · split
    · exact ⟨moved, rfl, current⟩
    · exact ⟨moved, rfl, current⟩
    · split
      · exact ⟨moved, rfl, current⟩
      · exact ⟨moved, rfl, current⟩

theorem handleUpdates_view {events : List MarketBookEvent} (formed : ∀ event ∈ events, event.WellFormed)
    (maps : runtime.tokenToCondition token = some conditionId)
    (current : runtime.streamIsCurrent generation websocketGeneration = true) (receivedNs : UInt64) :
    (runtime.handleUpdates receivedNs generation websocketGeneration events).1.books.view token =
      (eventsOf token events).foldl applyView (runtime.books.view token) := by
  induction events generalizing runtime with
  | nil => rfl
  | cons event rest ih =>
      obtain ⟨formedEvent, formedRest⟩ := List.forall_mem_cons.mp formed
      obtain ⟨moved, mapping, stays⟩ := handleOrderbookUpdate_view formedEvent maps current receivedNs
      simp only [OrderbookRuntime.handleUpdates]
      rw [handleOrderbookUpdate_returns runtime formedEvent]
      refine (ih formedRest (mapping ▸ maps) stays).trans ?_
      rw [moved, eventsOf, eventsOf, List.filter_cons]
      split
      · next same => simp [same]
      · next different => simp [different]

end Updates

/-! ## Every message -/

section Message

variable {runtime : OrderbookRuntime} {parsed : Json} {handled : OrderbookRuntime.Handled}

/-- An item stands somewhere in its message. -/
theorem ItemsApplied.change (applied : ItemsApplied runtime parsed handled) {token : String}
    (subscribed : Subscribed runtime token) {item change : Json} (member : item ∈ messageItems parsed)
    (isChange : IsChange token change item) (quiet : handled.resnapshot = false) :
    ∃ update ∈ handled.updates, update.assetId = token ∧ update.snapshot = false := by
  obtain ⟨before, after, split⟩ := List.append_of_mem member
  obtain requested | ⟨_, _, earlier, update, later, updates, asset, delta, _⟩ :=
    applied.changes token subscribed before item after split change isChange
  · simp [quiet] at requested
  · exact ⟨update, by simp [updates], asset, delta⟩

theorem itemsApplied_nothing :
    ItemsApplied runtime parsed { runtime := runtime } ↔
      ∀ token, Subscribed runtime token → ∀ item ∈ messageItems parsed,
        ¬IsBook token item ∧ (∀ change, ¬IsChange token change item) ∧
          ∀ tickSize, ¬IsTick token tickSize item := by
  constructor
  · intro applied token subscribed item member
    refine ⟨?_, ?_, ?_⟩
    · intro isBook
      obtain requested | ⟨_, _, _, impossible, _⟩ := applied.books token subscribed item member isBook
      · cases requested
      · cases impossible
    · intro change isChange
      obtain ⟨_, impossible, _⟩ := applied.change subscribed member isChange rfl
      cases impossible
    · intro tickSize isTick
      have impossible := (applied.ticks token subscribed item member tickSize isTick).1
      cases impossible
  · intro irrelevant
    constructor
    · intro token subscribed item member isBook
      exact absurd isBook (irrelevant token subscribed item member).1
    · intro token subscribed before item after split change isChange
      exact absurd isChange ((irrelevant token subscribed item (by simp [split])).2.1 change)
    · intro token subscribed
      have nothing := eventsAlone_irrelevant subscribed.1 fun item member =>
        ⟨(irrelevant token subscribed item member).1, (irrelevant token subscribed item member).2.1⟩
      rw [nothing]
      exact .inr rfl
    · intro token subscribed item member tickSize isTick
      exact absurd isTick ((irrelevant token subscribed item member).2.2 tickSize)

theorem itemsApplied_resnapshot (ticks : handled.ticks = []) (requested : handled.resnapshot = true) :
    ItemsApplied runtime parsed handled ↔
      ∀ token, Subscribed runtime token → ∀ item ∈ messageItems parsed,
        ∀ tickSize, ¬IsTick token tickSize item := by
  constructor
  · intro applied token subscribed item member tickSize isTick
    have impossible := (applied.ticks token subscribed item member tickSize isTick).1
    simp [ticks] at impossible
  · intro noTick
    constructor
    · intro _ _ _ _ _
      exact .inl requested
    · intro _ _ _ _ _ _ _ _
      exact .inl requested
    · intro _ _
      exact .inl requested
    · intro token subscribed item member tickSize isTick
      exact absurd isTick (noTick token subscribed item member tickSize)

section Accepted

variable {events : List MarketBookEvent} (read : parseMarketBookEvents parsed = .ok events)
  (updates : handled.updates = events) (quiet : handled.resnapshot = false)
  (effect : ∀ token, Subscribed runtime token → handled.runtime.books.view token =
    (eventsOf token events).foldl applyView (runtime.books.view token))

include read updates quiet effect

theorem ItemsApplied.reach (applied : ItemsApplied runtime parsed handled) {token : String}
    (subscribed : Subscribed runtime token) : ChangesReach runtime token (messageItems parsed) := by
  have collected := collected_parsed subscribed.1 read
  constructor
  · intro bookFirst item member change isChange
    obtain ⟨update, listed, asset, delta⟩ := applied.change subscribed member isChange quiet
    rw [updates] at listed
    obtain ⟨earlier, later, rfl⟩ := List.append_of_mem listed
    have nothing := collected.delta_first asset delta
    have isFirst : update ∈ (eventsOf token (earlier ++ update :: later)).head? := by
      rw [eventsOf_append, nothing]
      simp [eventsOf, asset]
    exact (collected.changeFirst update isFirst delta).not_bookFirst bookFirst
  · intro behind
    obtain ⟨before, item, after, split, book, change, isChange⟩ := behind
    obtain requested | ⟨_, _, earlier, update, later, listed, asset, delta, _, finds⟩ :=
      applied.changes token subscribed before item after split change isChange
    · simp [quiet] at requested
    · obtain cached | ⟨other, member, otherAsset, _⟩ := finds (.inr book)
      · exact cached
      · subst updates
        rw [listed] at collected
        have nothing := collected.delta_first asset delta
        have impossible : other ∈ eventsOf token earlier := by simp [eventsOf, member, otherAsset]
        rw [nothing] at impossible
        cases impossible
  · obtain requested | reached := applied.effect token subscribed
    · simp [quiet] at requested
    · rw [effect token subscribed] at reached
      exact (eventsOf_alone_iff read _).mp reached

theorem itemsApplied_updates (ticks : handled.ticks = []) :
    ItemsApplied runtime parsed handled ↔
      (∀ token, Subscribed runtime token → ∀ item ∈ messageItems parsed,
        ∀ tickSize, ¬IsTick token tickSize item) ∧
      ∀ token, Subscribed runtime token → ChangesReach runtime token (messageItems parsed) := by
  constructor
  · intro applied
    refine ⟨?_, fun token subscribed => applied.reach read updates quiet effect subscribed⟩
    intro token subscribed item member tickSize isTick
    have impossible := (applied.ticks token subscribed item member tickSize isTick).1
    simp [ticks] at impossible
  · intro routed
    obtain ⟨noTick, reach⟩ := routed
    have fromEvents : ∀ {token update}, update ∈ eventsOf token events →
        update ∈ handled.updates ∧ update.assetId = token := by
      intro token update member
      obtain ⟨listed, asset⟩ := List.mem_filter.mp member
      exact ⟨updates ▸ listed, by simpa using asset⟩
    constructor
    · intro token subscribed item member isBook
      obtain ⟨event, readBook, update, listed, same⟩ :=
        (collected_parsed subscribed.1 read).books item member isBook
      obtain ⟨passed, asset⟩ := fromEvents listed
      exact .inr ⟨event, readBook, update, passed, asset, same⟩
    · intro token subscribed before item after split change isChange
      have member : item ∈ messageItems parsed := by simp [split]
      have collected := collected_parsed subscribed.1 read
      obtain ⟨entry, readEntry, first, isFirst, listed⟩ := collected.changes item member change isChange
      obtain ⟨passed, asset⟩ := fromEvents (List.mem_of_mem_head? isFirst)
      cases snapshot : first.snapshot with
      | true =>
          have bookFirst := collected.bookFirst first isFirst snapshot
          exact absurd isChange ((reach token subscribed).first bookFirst item member change)
      | false =>
          obtain ⟨earlier, later, updated⟩ := List.append_of_mem passed
          refine .inr ⟨entry, readEntry, earlier, first, later, updated, asset, snapshot, listed, ?_⟩
          intro found
          obtain cached | book := found
          · exact .inl cached
          · exact .inl ((reach token subscribed).behind ⟨before, item, after, split, book, change, isChange⟩)
    · intro token subscribed
      rw [effect token subscribed]
      exact .inr ((eventsOf_alone_iff read _).mpr (reach token subscribed).settled)
    · intro token subscribed item member tickSize isTick
      exact absurd isTick (noTick token subscribed item member tickSize)

end Accepted

/-- What a message that is taken leaves, in terms of its routing. -/
theorem handleMessage_taken (parse : String → Except CppError Json) {text : String}
    {websocketGeneration : Nat}
    (current : runtime.streamIsCurrent runtime.streamGeneration websocketGeneration = true)
    (taken : text ∉ ["", "PONG"]) (receivedNs : UInt64) :
    (∀ routed, runtime.routeMessage parse text websocketGeneration receivedNs = (routed, .ok ()) →
      runtime.handleMessage parse text websocketGeneration receivedNs = routed) ∧
    (∀ error, runtime.routeMessage parse text websocketGeneration receivedNs =
        ({ runtime := runtime }, .error error) →
      runtime.handleMessage parse text websocketGeneration receivedNs =
        { runtime := runtime.requestResnapshot, resnapshot := true }) := by
  have entered : ¬((!runtime.streamIsCurrent runtime.streamGeneration websocketGeneration) = true ∨
      text = "" ∨ text = "PONG") := by
    simpa [current] using taken
  have owner : runtime.ownerActive = true := by
    simp only [OrderbookRuntime.streamIsCurrent, Bool.and_eq_true] at current
    exact current.1.1.1
  constructor
  · intro routed result
    simp only [OrderbookRuntime.handleMessage, if_neg entered, result]
  · intro error result
    simp only [OrderbookRuntime.handleMessage, if_neg entered, result, owner, Bool.not_true,
      Bool.false_eq_true, ↓reduceIte]

theorem setTickSize_subscribed {token : String} (subscribed : Subscribed runtime token) (tickSize : String) :
    ∃ changed, runtime.setTickSize ⟨token, tickSize⟩ = some changed ∧
      ∃ conditionId market, runtime.tokenToCondition token = some conditionId ∧
        changed.markets conditionId = some market ∧ market.minimumTickSize = tickSize := by
  obtain ⟨_, conditionId, market, maps, listed⟩ := subscribed
  have set : runtime.setTickSize ⟨token, tickSize⟩ = some { runtime with
      markets := Function.update runtime.markets conditionId
        (some { market with minimumTickSize := tickSize }) } := by
    simp [OrderbookRuntime.setTickSize, maps, listed]
  exact ⟨_, set, conditionId, _, maps, Function.update_self .., rfl⟩

theorem setTickSize_books {tick : MarketTickSizeChange} {changed : OrderbookRuntime}
    (set : runtime.setTickSize tick = some changed) : changed.books = runtime.books := by
  obtain ⟨conditionId, _, set⟩ := Option.bind_eq_some_iff.mp set
  obtain ⟨market, _, set⟩ := Option.bind_eq_some_iff.mp set
  cases set
  rfl

theorem messageItems_single (single : parsed.isArray = false) : messageItems parsed = [parsed] := by
  cases parsed with
  | array items => cases single
  | _ => rfl

/-- Neither a book nor a price change is read as a tick size change, or rejected as one. -/
theorem not_tick_of_other {token : String} (isOther : IsBook token parsed ∨ ∃ change, IsChange token change parsed) :
    parseMarketTickSizeChange parsed = .ok none := by
  obtain isBook | ⟨change, isChange⟩ := isOther
  · exact parseMarketTickSizeChange_other isBook.1 (by decide)
  · exact parseMarketTickSizeChange_other isChange.1 (by decide)

/-- A tick size change is stored in the market of its token. -/
theorem itemsApplied_stored {tick : MarketTickSizeChange} (single : parsed.isArray = false)
    (tickRead : parseMarketTickSizeChange parsed = .ok (some tick)) {handled : OrderbookRuntime.Handled}
    (stored : ∀ changed, runtime.setTickSize tick = some changed →
      handled = { runtime := changed, ticks := [tick] })
    (unknown : runtime.setTickSize tick = none → handled = { runtime := runtime }) :
    ItemsApplied runtime parsed handled := by
  have noOther : ∀ token, ¬(IsBook token parsed ∨ ∃ change, IsChange token change parsed) := by
    intro token isOther
    cases tickRead.symm.trans (not_tick_of_other isOther)
  have onlyItem : ∀ {item}, item ∈ messageItems parsed → item = parsed := by
    intro item member
    rw [messageItems_single single] at member
    exact List.mem_singleton.mp member
  have kept : handled.runtime.books = runtime.books := by
    cases set : runtime.setTickSize tick with
    | none => rw [unknown set]
    | some changed =>
        rw [stored changed set]
        exact setTickSize_books set
  constructor
  · intro token _ item member isBook
    rw [onlyItem member] at isBook
    exact absurd (.inl isBook) (noOther token)
  · intro token _ before item after split change isChange
    have member : item ∈ messageItems parsed := by simp [split]
    rw [onlyItem member] at isChange
    exact absurd (.inr ⟨change, isChange⟩) (noOther token)
  · intro token subscribed
    have nothing := @eventsAlone_irrelevant token subscribed.1 (messageItems parsed) (by
      simpa [messageItems_single single] using noOther token)
    rw [nothing, kept]
    exact .inr rfl
  · intro token subscribed item member tickSize isTick
    rw [onlyItem member] at isTick
    cases tickRead.symm.trans (parseMarketTickSizeChange_tick subscribed.1 isTick)
    obtain ⟨changed, set, known⟩ := setTickSize_subscribed subscribed tickSize
    rw [stored changed set]
    exact ⟨List.mem_singleton_self _, known⟩

/-- A message other than an array that is read as a tick size change. -/
theorem itemsApplied_tick {parse : String → Except CppError Json} {text : String}
    {websocketGeneration : Nat} (single : parsed.isArray = false) (read : parse text = .ok parsed)
    (routes : OrderbookRuntime.occursIn "\"tick_size_change\"" text = true)
    (current : runtime.streamIsCurrent runtime.streamGeneration websocketGeneration = true)
    (taken : text ∉ ["", "PONG"]) (receivedNs : UInt64) :
    ItemsApplied runtime parsed (runtime.handleMessage parse text websocketGeneration receivedNs) ↔
      ∀ token, Subscribed runtime token →
        ¬IsBook token parsed ∧ ∀ change, ¬IsChange token change parsed := by
  obtain ⟨completes, fails⟩ := handleMessage_taken parse current taken receivedNs
  have whole : (parse text >>= parseMarketTickSizeChange) = parseMarketTickSizeChange parsed := by
    rw [read]
    rfl
  have noOther : parseMarketTickSizeChange parsed ≠ .ok none → ∀ token,
      ¬IsBook token parsed ∧ ∀ change, ¬IsChange token change parsed := fun other token =>
    ⟨fun isBook => other (not_tick_of_other (.inl isBook)),
      fun change isChange => other (not_tick_of_other (.inr ⟨change, isChange⟩))⟩
  have noTick : (∀ tick, parseMarketTickSizeChange parsed ≠ .ok (some tick)) → ∀ token, token ≠ "" →
      ∀ tickSize, ¬IsTick token tickSize parsed := fun other token named tickSize isTick =>
    other _ (parseMarketTickSizeChange_tick named isTick)
  cases tickRead : parseMarketTickSizeChange parsed with
  | error error =>
      have routed : runtime.routeMessage parse text websocketGeneration receivedNs =
          ({ runtime := runtime }, .error error) := by
        simp only [OrderbookRuntime.routeMessage, routes, ↓reduceIte, whole, tickRead]
      rw [fails error routed, itemsApplied_resnapshot rfl rfl]
      simp only [messageItems_single single, List.mem_singleton, forall_eq]
      exact iff_of_true (fun token subscribed => noTick (by simp [tickRead]) token subscribed.1)
        fun token _ => noOther (by simp [tickRead]) token
  | ok read =>
      cases read with
      | none =>
          have routed : runtime.routeMessage parse text websocketGeneration receivedNs =
              ({ runtime := runtime }, .ok ()) := by
            simp only [OrderbookRuntime.routeMessage, routes, ↓reduceIte, whole, tickRead]
          rw [completes _ routed, itemsApplied_nothing]
          simp only [messageItems_single single, List.mem_singleton, forall_eq]
          constructor
          · intro irrelevant token subscribed
            obtain ⟨noBook, noChange, _⟩ := irrelevant token subscribed
            exact ⟨noBook, noChange⟩
          · intro irrelevant token subscribed
            obtain ⟨noBook, noChange⟩ := irrelevant token subscribed
            exact ⟨noBook, noChange, noTick (by simp [tickRead]) token subscribed.1⟩
      | some tick =>
          refine iff_of_true (itemsApplied_stored single tickRead ?_ ?_)
            fun token _ => noOther (by simp [tickRead]) token
          · intro changed set
            apply completes
            simp only [OrderbookRuntime.routeMessage, routes, ↓reduceIte, whole, tickRead, set]
          · intro set
            apply completes
            simp only [OrderbookRuntime.routeMessage, routes, ↓reduceIte, whole, tickRead, set]

/-- A message keeps all items for subscribed tokens if and only if its text routes
it to the parser of each of them. -/
theorem messageItems_applied_iff {parse : String → Except CppError Json} {text : String}
    {websocketGeneration : Nat} (read : parse text = .ok parsed)
    (rejects : ∀ control ∈ ["", "PONG"], ∀ value, parse control ≠ .ok value)
    (current : runtime.streamIsCurrent runtime.streamGeneration websocketGeneration = true)
    (receivedNs : UInt64) :
    ItemsApplied runtime parsed (runtime.handleMessage parse text websocketGeneration receivedNs) ↔
      ItemsRouted runtime text parsed := by
  have taken : text ∉ ["", "PONG"] := fun control => rejects text control parsed read
  obtain ⟨completes, fails⟩ := handleMessage_taken parse current taken receivedNs
  unfold ItemsRouted
  cases routes : OrderbookRuntime.occursIn "\"tick_size_change\"" text with
  | true =>
      rw [if_pos rfl]
      cases array : parsed.isArray with
      | false =>
          rw [itemsApplied_tick array read routes current taken receivedNs]
          simp [messageItems_single array]
      | true =>
          have notObject : parsed.isObject = false := by
            cases parsed with
            | array items => rfl
            | _ => cases array
          have routed : runtime.routeMessage parse text websocketGeneration receivedNs =
              ({ runtime := runtime }, .ok ()) := by
            have nothing : (parse text >>= parseMarketTickSizeChange) = .ok none := by
              rw [read]
              exact if_pos (by simp [notObject])
            simp only [OrderbookRuntime.routeMessage, routes, ↓reduceIte, nothing]
          rw [completes _ routed, itemsApplied_nothing]
          simp
  | false =>
      rw [if_neg Bool.false_ne_true]
      have whole : (parse text >>= parseMarketBookEvents) = parseMarketBookEvents parsed := by
        rw [read]
        rfl
      cases events : parseMarketBookEvents parsed with
      | error error =>
          have routed : runtime.routeMessage parse text websocketGeneration receivedNs =
              ({ runtime := runtime }, .error error) := by
            simp only [OrderbookRuntime.routeMessage, routes, Bool.false_eq_true, ↓reduceIte, whole, events]
          rw [fails error routed, itemsApplied_resnapshot rfl rfl]
          exact (and_iff_left (.inl ⟨error, rfl⟩)).symm
      | ok events' =>
          have routed := routeMessage_updates runtime routes (whole.trans events) websocketGeneration receivedNs
          have effect : ∀ token, Subscribed runtime token →
              (runtime.handleUpdates receivedNs runtime.streamGeneration websocketGeneration
                events').1.books.view token =
                (eventsOf token events').foldl applyView (runtime.books.view token) := by
            intro token subscribed
            obtain ⟨_, conditionId, _, maps, _⟩ := subscribed
            exact handleUpdates_view (parseMarketBookEvents_wellFormed events) maps current receivedNs
          rw [completes _ routed, itemsApplied_updates events rfl rfl effect rfl]
          simp

end Message

/-- A `json::parse` that accepts one text. -/
def readsAs (text : String) (parsed : Json) (message : String) : Except CppError Json :=
  if message = text then .ok parsed else .error .jsonParseError

def tickJson (assetId tickSize : String) : Json :=
  .object [("event_type", .string "tick_size_change"), ("asset_id", .string assetId),
    ("new_tick_size", .string tickSize)]

def tickText : String :=
  "\x7b\"event_type\":\"tick_size_change\",\"asset_id\":\"yes\",\"new_tick_size\":\"0.001\"\x7d"

def subscribedRuntime : OrderbookRuntime :=
  runSteps [.connect true, .opened,
    .subscribe .live { conditionId := "first", tokenYes := "yes", tokenNo := "no" }] {}

def noLower : Json := priceChangeJson [changeJson "no" "0.44" "12" "SELL"]

def twoTokens : Json := .array [yesBook, noLower]

theorem readsAs_self (text : String) (parsed : Json) : readsAs text parsed text = .ok parsed := if_pos rfl

theorem readsAs_rejects {text : String} (taken : text ∉ ["", "PONG"]) (parsed : Json) :
    ∀ control ∈ ["", "PONG"], ∀ value, readsAs text parsed control ≠ .ok value := by
  intro control member value
  have other : control ≠ text := by
    rintro rfl
    exact taken member
  simp [readsAs, other]

theorem tickJson_routed : ItemsRouted subscribedRuntime tickText (tickJson "yes" "0.001") := by
  unfold ItemsRouted
  rw [if_pos (by decide +kernel)]
  intro token _ item member
  obtain rfl : item = tickJson "yes" "0.001" := List.mem_singleton.mp member
  refine ⟨?_, ?_, nofun⟩
  · intro isBook
    exact absurd isBook.1 (by simp [tickJson, Json.find?])
  · intro change isChange
    exact absurd isChange.1 (by simp [tickJson, Json.find?])

theorem twoTokens_book {token : String} {item : Json} (member : item ∈ [yesBook, noLower])
    (isBook : IsBook token item) : token = "yes" := by
  simp only [List.mem_cons, List.not_mem_nil, or_false] at member
  obtain rfl | rfl := member
  · simpa [yesBook, bookJson, Json.find?, List.lookup_cons, eq_comm] using isBook.2
  · exact absurd isBook.1 (by simp [noLower, priceChangeJson, Json.find?])

theorem twoTokens_change {token : String} {item change : Json} (member : item ∈ [yesBook, noLower])
    (isChange : IsChange token change item) : token = "no" := by
  simp only [List.mem_cons, List.not_mem_nil, or_false] at member
  obtain rfl | rfl := member
  · exact absurd isChange.1 (by simp [yesBook, bookJson, Json.find?, List.lookup_cons])
  · obtain ⟨_, changes, found, listed, asset⟩ := isChange
    cases found
    obtain rfl := List.mem_singleton.mp listed
    simpa [changeJson, Json.find?, List.lookup_cons, eq_comm] using asset

theorem twoTokens_reach (token : String) : ChangesReach subscribedRuntime token (messageItems twoTokens) := by
  have listed : messageItems twoTokens = [yesBook, noLower] := rfl
  rw [listed]
  constructor
  · intro bookFirst item member change isChange
    obtain ⟨before, book, after, split, isBook, _⟩ := bookFirst
    have isYes := twoTokens_book (by rw [split]; simp) isBook
    exact absurd (isYes.symm.trans (twoTokens_change member isChange)) (by decide)
  · intro behind
    obtain ⟨before, item, after, split, ⟨book, earlier, isBook⟩, change, isChange⟩ := behind
    have isYes := twoTokens_book (by rw [split]; simp [earlier]) isBook
    exact absurd (isYes.symm.trans (twoTokens_change (by rw [split]; simp) isChange)) (by decide)
  · have alone : eventsAlone [yesBook, noLower] = [yesBookEvent, { yesLowerEvent with assetId := "no" }] := by
      decide +kernel
    intro held last
    rw [alone] at last
    by_cases isYes : "yes" = token
    · simp [eventsOf, lastBook, yesBookEvent, yesLowerEvent, ← isYes] at last
      rw [← last]
      rfl
    · by_cases isNo : "no" = token
      · simp [eventsOf, lastBook, yesBookEvent, yesLowerEvent, ← isNo] at last
      · simp [eventsOf, lastBook, yesBookEvent, yesLowerEvent, isYes, isNo] at last

theorem twoTokens_routed : ItemsRouted subscribedRuntime "[]" twoTokens := by
  unfold ItemsRouted
  rw [if_neg (by decide +kernel)]
  refine ⟨?_, .inr fun token _ => twoTokens_reach token⟩
  intro token _ item member tickSize isTick
  simp only [messageItems, twoTokens, List.mem_cons, List.not_mem_nil, or_false] at member
  obtain rfl | rfl := member
  · exact absurd isTick.1 (by simp [yesBook, bookJson, Json.find?, List.lookup_cons])
  · exact absurd isTick.1 (by simp [noLower, priceChangeJson, Json.find?])

/-- A tick size, and a book beside a change of the other token. -/
theorem messageItems_applied_iff_test :
    ItemsApplied subscribedRuntime (tickJson "yes" "0.001")
        (subscribedRuntime.handleMessage (readsAs tickText (tickJson "yes" "0.001")) tickText 1 1000) ∧
      ItemsApplied subscribedRuntime twoTokens
        (subscribedRuntime.handleMessage (readsAs "[]" twoTokens) "[]" 1 1000) := by
  have current : subscribedRuntime.streamIsCurrent subscribedRuntime.streamGeneration 1 = true := by decide +kernel
  constructor
  · have rejects := readsAs_rejects (by decide +kernel : tickText ∉ ["", "PONG"]) (tickJson "yes" "0.001")
    exact (messageItems_applied_iff (readsAs_self tickText _) rejects current 1000).mpr tickJson_routed
  · have rejects := readsAs_rejects (by decide +kernel : "[]" ∉ ["", "PONG"]) twoTokens
    exact (messageItems_applied_iff (readsAs_self "[]" _) rejects current 1000).mpr twoTokens_routed

/-- A change on each side of its book, and no snapshot cached: the second is dropped. -/
example : ¬ChangesReach subscribedRuntime "yes" [yesLower, yesBook, yesLower] := by
  intro reach
  have cached := reach.behind ⟨[yesLower, yesBook], yesLower, [], rfl, ⟨yesBook, by simp, rfl, rfl⟩,
    _, rfl, _, rfl, List.mem_singleton_self _, rfl⟩
  exact absurd cached (by decide +kernel)

def bookAndTick : Json := .array [bookJson "yes" [] [levelJson "0.45" "20"], tickJson "yes" "0.001"]

def bookAndTickText : String :=
  "[\x7b\"event_type\":\"book\",\"asset_id\":\"yes\",\"bids\":[],\"asks\":[\x7b\"price\":\"0.45\"," ++
    "\"size\":\"20\"\x7d]\x7d," ++ tickText ++ "]"

/-- A book and a tick size in one array: both are dropped. -/
theorem bookBesideTick_dropped :
    subscribedRuntime.streamIsCurrent subscribedRuntime.streamGeneration 1 = true ∧
      ¬ItemsApplied subscribedRuntime bookAndTick
        (subscribedRuntime.handleMessage (readsAs bookAndTickText bookAndTick) bookAndTickText 1 1000) := by
  refine ⟨by decide +kernel, ?_⟩
  intro applied
  have subscribed : Subscribed subscribedRuntime "yes" := by
    refine ⟨by decide, "first", ?_⟩
    exact Option.isSome_iff_exists.mp (by decide +kernel) |>.imp fun _ listed => ⟨rfl, listed⟩
  obtain requested | ⟨_, _, update, passed, _⟩ :=
    applied.books "yes" subscribed (bookJson "yes" [] [levelJson "0.45" "20"]) (by simp [bookAndTick, messageItems])
      ⟨rfl, rfl⟩
  · exact absurd requested (by decide +kernel)
  · have nothing : (subscribedRuntime.handleMessage (readsAs bookAndTickText bookAndTick) bookAndTickText 1
        1000).updates = [] := by
      decide +kernel
    rw [nothing] at passed
    cases passed

end Polymarket.Market
