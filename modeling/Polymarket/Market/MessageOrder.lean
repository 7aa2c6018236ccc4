import Polymarket.Market.PriceMap

/-! One array message against its elements as messages of their own. The parser
collects the changes of an asset in the first event of that asset, so a change
that follows a book item never reaches the book it follows. -/

set_option autoImplicit false

namespace Polymarket.Market

/-! ## Applying a message -/

/-- The books after the events of one message. -/
def StreamBooks.applyAll (state : StreamBooks) (events : List MarketBookEvent)
    (receivedNs : UInt64) : StreamBooks :=
  events.foldl (fun state event => (applyStreamBookEvent state event receivedNs).1) state

/-- The books after each item has been parsed as a message of its own and applied
before the next. -/
def StreamBooks.applyEach (receivedNs : UInt64) : List Json → StreamBooks → Except CppError StreamBooks
  | [], state => .ok state
  | item :: rest, state => do
      let events ← parseMarketBookEvents item
      applyEach receivedNs rest (state.applyAll events receivedNs)

/-- The levels cached for an asset, and whether its snapshot has arrived. -/
def StreamBooks.view (state : StreamBooks) (asset : String) : Option Sides × Bool :=
  ((state.books asset).map Orderbook.sides, state.snapshotReady asset)

/-- What an event of the asset does to its view. -/
def applyView (view : Option Sides × Bool) (event : MarketBookEvent) : Option Sides × Bool :=
  if event.snapshot = false ∧ view.2 = false then view
  else (some ((view.1.getD ⟨[], []⟩).apply event), true)

def eventsOf (asset : String) (events : List MarketBookEvent) : List MarketBookEvent :=
  events.filter fun event => event.assetId = asset

theorem eventsOf_append (asset : String) (first second : List MarketBookEvent) :
    eventsOf asset (first ++ second) = eventsOf asset first ++ eventsOf asset second :=
  List.filter_append ..

theorem view_applyStreamBookEvent {event : MarketBookEvent} (formed : event.WellFormed)
    (state : StreamBooks) (receivedNs : UInt64) (asset : String) :
    (applyStreamBookEvent state event receivedNs).1.view asset =
      if event.assetId = asset then applyView (state.view asset) event else state.view asset := by
  obtain ⟨applied, sides⟩ := applyMarketBookEvent_wellFormed formed
    ((state.books event.assetId).getD {}) receivedNs
  unfold applyStreamBookEvent
  split
  · next skipped =>
    split
    · next same =>
      subst same
      exact (if_pos skipped).symm
    · rfl
  · next taken =>
    simp only [applied]
    by_cases same : event.assetId = asset
    · subst same
      have ready : (if event.snapshot then Function.update state.snapshotReady event.assetId true
          else state.snapshotReady) event.assetId = true := by
        cases snapshot : event.snapshot with
        | true => simp
        | false => simpa [snapshot] using taken
      have levels : (((state.books event.assetId).getD {}).sides) =
          ((state.books event.assetId).map Orderbook.sides).getD ⟨[], []⟩ := by
        cases state.books event.assetId <;> rfl
      simp only [StreamBooks.view, applyView, ↓reduceIte, Function.update_self, Option.map_some,
        sides, ready, levels]
      exact (if_neg taken).symm
    · have other : asset ≠ event.assetId := Ne.symm same
      simp only [StreamBooks.view, if_neg same, Function.update_of_ne other]
      split
      · rw [Function.update_of_ne other]
      · rfl

/-- A view only depends on the events of its asset. -/
theorem view_applyAll {events : List MarketBookEvent} (formed : ∀ event ∈ events, event.WellFormed)
    (state : StreamBooks) (receivedNs : UInt64) (asset : String) :
    (state.applyAll events receivedNs).view asset =
      (eventsOf asset events).foldl applyView (state.view asset) := by
  induction events generalizing state with
  | nil => rfl
  | cons event rest ih =>
      obtain ⟨formedEvent, formedRest⟩ := List.forall_mem_cons.mp formed
      have step := view_applyStreamBookEvent formedEvent state receivedNs asset
      have later := ih formedRest (applyStreamBookEvent state event receivedNs).1
      simp only [StreamBooks.applyAll, List.foldl_cons] at later ⊢
      rw [later, step, eventsOf, eventsOf, List.filter_cons]
      split
      · next same => simp [same]
      · next different => simp [different]

/-! ## What one item adds -/

/-- An accepted item: a book, or the entries of a price change. -/
inductive Item where
  | book (event : MarketBookEvent)
  | changes (entries : List (String × MarketPriceChange))

def Item.add (events : List MarketBookEvent) : Item → List MarketBookEvent
  | .book event => events ++ [event]
  | .changes entries =>
      entries.foldl (fun events entry => addChange entry.1 entry.2 events) events

/-- The parser never merges two books: a book item has a snapshot and no change. -/
def Item.Snapshots : Item → Prop
  | .book event => event.snapshot = true ∧ event.changes = []
  | .changes _ => True

/-- The asset and the change of an entry, unless the entry is skipped. -/
def changeEntry (change : Json) : Option (String × MarketPriceChange) :=
  match change.find? "asset_id", parsePriceChange change with
  | some (.string assetId), .ok parsed => if assetId = "" then none else some (assetId, parsed)
  | _, _ => none

theorem getStringRef_ok {field : Json} {text : String} (read : field.getStringRef = .ok text) :
    field = .string text := by
  cases field with
  | string value => exact congrArg Json.string (Except.ok.inj read)
  | _ => cases read

theorem handleChange_reads {change : Json} {events result : List MarketBookEvent}
    (read : handleChange events change = .ok result) (before : List MarketBookEvent) :
    handleChange before change = .ok ((changeEntry change).toList.foldl
      (fun events entry => addChange entry.1 entry.2 events) before) := by
  unfold handleChange at read ⊢
  split at read
  · cases read
  · next isObject =>
    simp only [isObject, Bool.false_eq_true, ↓reduceIte]
    split at read
    · next found => simp [changeEntry, found]
    · next field found =>
      obtain ⟨assetId, readAsset, read⟩ := bind_ok read
      have isText := getStringRef_ok readAsset
      simp only [readAsset]
      split at read
      · next unnamed =>
        have skipped : changeEntry change = none := by
          simp only [changeEntry, found, isText, unnamed]
          cases parsePriceChange change with
          | error error => rfl
          | ok parsed => rfl
        rw [skipped]
        exact if_pos unnamed
      · next named =>
        obtain ⟨parsed, readChange, read⟩ := bind_ok read
        simp only [changeEntry, found, isText, readChange, named, ↓reduceIte]
        exact if_neg named

theorem handleChanges_reads {changes : List Json} {events result : List MarketBookEvent}
    (read : handleChanges changes events = .ok result) (before : List MarketBookEvent) :
    handleChanges changes before = .ok ((changes.filterMap changeEntry).foldl
      (fun events entry => addChange entry.1 entry.2 events) before) := by
  induction changes generalizing events before with
  | nil => rfl
  | cons change rest ih =>
      obtain ⟨middle, readChange, read⟩ := bind_ok read
      have first := handleChange_reads readChange before
      have listed : (change :: rest).filterMap changeEntry =
          (changeEntry change).toList ++ rest.filterMap changeEntry := by
        cases entry : changeEntry change with
        | none => simp [entry]
        | some entry' => simp [entry]
      rw [handleChanges, first, listed, List.foldl_append]
      exact ih read _

/-- An accepted item adds the same whatever stands before it. -/
theorem handleItem_reads {item : Json} {events result : List MarketBookEvent}
    (read : handleItem events item = .ok result) :
    ∃ added : Item, added.Snapshots ∧ ∀ before, handleItem before item = .ok (added.add before) := by
  unfold handleItem at read ⊢
  obtain ⟨eventType, readType, read⟩ := bind_ok read
  simp only [readType]
  split at read
  · next isBook =>
    obtain ⟨event, readBook, read⟩ := bind_ok read
    obtain ⟨_, _, snapshot, changes⟩ := parseBook_ok readBook
    refine ⟨.book event, ⟨snapshot, changes⟩, fun before => ?_⟩
    simp only [readBook]
    exact if_pos isBook
  · next notBook =>
    split at read
    · next isChange =>
      split at read
      · next changes found =>
        refine ⟨.changes (changes.elements.filterMap changeEntry), trivial, fun before => ?_⟩
        simp only [Item.add, ← handleChanges_reads read before]
        exact (if_neg notBook).trans (if_pos isChange)
      · refine ⟨.changes [], trivial, fun before => ?_⟩
        exact (if_neg notBook).trans (if_pos isChange)
    · next notChange =>
      refine ⟨.changes [], trivial, fun before => ?_⟩
      exact (if_neg notBook).trans (if_neg notChange)

/-- An accepted item of an array is accepted as a message of its own. -/
theorem parseMarketBookEvents_item {item : Json} {events result : List MarketBookEvent}
    (read : handleItem events item = .ok result) : parseMarketBookEvents item = handleItem [] item := by
  cases item with
  | array items =>
      obtain ⟨eventType, readType, _⟩ := bind_ok read
      cases readType
  | _ => rfl

/-! ## One asset -/

/-- Changes of an asset joined to its first event. -/
def joinChanges (asset : String) (changes : List MarketPriceChange) :
    List MarketBookEvent → List MarketBookEvent
  | [] => if changes = [] then [] else [{ assetId := asset, changes := changes }]
  | event :: rest => { event with changes := event.changes ++ changes } :: rest

def changesOf (asset : String) (entries : List (String × MarketPriceChange)) :
    List MarketPriceChange :=
  (entries.filter fun entry => entry.1 = asset).map Prod.snd

/-- What an item does to the events of one asset. -/
def Item.addOf (asset : String) (events : List MarketBookEvent) : Item → List MarketBookEvent
  | .book event => if event.assetId = asset then events ++ [event] else events
  | .changes entries => joinChanges asset (changesOf asset entries) events

theorem joinChanges_nil (asset : String) (events : List MarketBookEvent) :
    joinChanges asset [] events = events := by
  cases events with
  | nil => rfl
  | cons event rest => simp [joinChanges]

theorem joinChanges_append (asset : String) (first second : List MarketPriceChange)
    (events : List MarketBookEvent) :
    joinChanges asset second (joinChanges asset first events) =
      joinChanges asset (first ++ second) events := by
  cases events with
  | nil =>
      by_cases nothing : first = []
      · simp [joinChanges, nothing]
      · simp [joinChanges, nothing]
  | cons event rest => simp [joinChanges]

theorem eventsOf_addChange (asset other : String) (change : MarketPriceChange)
    (events : List MarketBookEvent) :
    eventsOf asset (addChange other change events) =
      if other = asset then joinChanges asset [change] (eventsOf asset events)
      else eventsOf asset events := by
  induction events with
  | nil =>
      by_cases same : other = asset
      · simp [addChange, eventsOf, joinChanges, same]
      · simp [addChange, eventsOf, same]
  | cons event rest ih =>
      unfold eventsOf at ih ⊢
      by_cases first : event.assetId = other
      · by_cases same : other = asset
        · simp [addChange, joinChanges, first, same]
        · simp [addChange, first, same]
      · rw [addChange, if_neg first, List.filter_cons, List.filter_cons, ih]
        by_cases held : event.assetId = asset
        · have different : ¬other = asset := fun same => first (held.trans same.symm)
          simp [held, different]
        · simp [held]

theorem eventsOf_changes (asset : String) (entries : List (String × MarketPriceChange))
    (events : List MarketBookEvent) :
    eventsOf asset (entries.foldl (fun events entry => addChange entry.1 entry.2 events) events) =
      joinChanges asset (changesOf asset entries) (eventsOf asset events) := by
  induction entries generalizing events with
  | nil => exact (joinChanges_nil asset _).symm
  | cons entry rest ih =>
      rw [List.foldl_cons, ih, eventsOf_addChange]
      by_cases same : entry.1 = asset
      · simp [changesOf, same, joinChanges_append]
      · simp [changesOf, same]

theorem eventsOf_add (asset : String) (item : Item) (events : List MarketBookEvent) :
    eventsOf asset (item.add events) = item.addOf asset (eventsOf asset events) := by
  cases item with
  | book event =>
      by_cases same : event.assetId = asset
      · simp [Item.add, Item.addOf, eventsOf, same]
      · simp [Item.add, Item.addOf, eventsOf, same]
  | changes entries => exact eventsOf_changes asset entries events

/-- The last book among the events of an asset, and the changes after it. -/
def lastBook (events : List MarketBookEvent) : Option (Sides × List MarketPriceChange) :=
  events.foldl (fun last event =>
    if event.snapshot then some (⟨event.bids, event.asks⟩, [])
    else last.map fun held => (held.1, held.2 ++ event.changes)) none

/-- The changes listed for an asset after its last book leave its levels as that
book has them. -/
def Settled (asset : String) (events : List MarketBookEvent) : Prop :=
  ∀ held ∈ lastBook (eventsOf asset events), held.2.foldl Sides.change held.1 = held.1

theorem lastBook_snapshot (events : List MarketBookEvent) {event : MarketBookEvent}
    (snapshot : event.snapshot = true) :
    lastBook (events ++ [event]) = some (⟨event.bids, event.asks⟩, []) := by
  simp [lastBook, snapshot]

theorem lastBook_changes (asset : String) (events : List MarketBookEvent)
    (changes : List MarketPriceChange) :
    lastBook (events ++ joinChanges asset changes []) =
      (lastBook events).map fun held => (held.1, held.2 ++ changes) := by
  by_cases nothing : changes = []
  · simp [joinChanges, nothing]
  · simp [lastBook, joinChanges, nothing]

/-- Separate events leave the last book with its later changes. -/
theorem foldl_applyView_lastBook {events : List MarketBookEvent} {held : Sides × List MarketPriceChange}
    (last : lastBook events = some held) (view : Option Sides × Bool) :
    events.foldl applyView view = (some (held.2.foldl Sides.change held.1), true) := by
  induction events using List.reverseRecOn generalizing held with
  | nil => cases last
  | append_singleton front event ih =>
      rw [List.foldl_append]
      cases snapshot : event.snapshot with
      | true =>
          rw [lastBook_snapshot front snapshot] at last
          cases last
          simp [applyView, Sides.apply, snapshot]
      | false =>
          have earlier : lastBook (front ++ [event]) =
              (lastBook front).map fun held => (held.1, held.2 ++ event.changes) := by
            simp [lastBook, snapshot]
          rw [earlier, Option.map_eq_some_iff] at last
          obtain ⟨before, lastBefore, rfl⟩ := last
          simp [ih lastBefore, applyView, Sides.apply, snapshot]

theorem foldl_applyView_joinChanges (asset : String) (first second : List MarketPriceChange)
    (view : Option Sides × Bool) :
    (joinChanges asset second []).foldl applyView ((joinChanges asset first []).foldl applyView view) =
      (joinChanges asset (first ++ second) []).foldl applyView view := by
  by_cases nothing : first = []
  · simp [joinChanges, nothing]
  · by_cases nothingMore : second = []
    · simp [joinChanges, nothingMore]
    · cases ready : view.2 with
      | true => simp [joinChanges, nothing, nothingMore, applyView, Sides.apply, ready]
      | false => simp [joinChanges, nothing, nothingMore, applyView, ready]

/-- The events of an asset in one message against those of separate messages: once
a book is listed its levels come last, before that the changes are the same. -/
def Joined (asset : String) (joined separate : List MarketBookEvent) : Prop :=
  match lastBook separate with
  | some held => ∃ front event, joined = front ++ [event] ∧ event.snapshot = true ∧
      (⟨event.bids, event.asks⟩ : Sides) = held.1
  | none => ∃ changes, joined = joinChanges asset changes [] ∧
      ∀ view, separate.foldl applyView view = joined.foldl applyView view

theorem Joined.nil (asset : String) : Joined asset [] [] := ⟨[], rfl, fun _ => rfl⟩

theorem Joined.book {asset : String} {joined separate : List MarketBookEvent} {event : MarketBookEvent}
    (snapshot : event.snapshot = true) : Joined asset (joined ++ [event]) (separate ++ [event]) := by
  rw [Joined, lastBook_snapshot separate snapshot]
  exact ⟨joined, event, rfl, snapshot, rfl⟩

theorem Joined.changes {asset : String} {joined separate : List MarketBookEvent}
    (together : Joined asset joined separate) (changes : List MarketPriceChange) :
    Joined asset (joinChanges asset changes joined) (separate ++ joinChanges asset changes []) := by
  unfold Joined at together ⊢
  rw [lastBook_changes]
  cases last : lastBook separate with
  | some held =>
      rw [last] at together
      obtain ⟨front, event, rfl, snapshot, levels⟩ := together
      cases front with
      | nil => exact ⟨[], { event with changes := event.changes ++ changes }, rfl, snapshot, levels⟩
      | cons first rest =>
          exact ⟨{ first with changes := first.changes ++ changes } :: rest, event, rfl, snapshot, levels⟩
  | none =>
      rw [last] at together
      obtain ⟨earlier, rfl, same⟩ := together
      refine ⟨earlier ++ changes, joinChanges_append asset earlier changes [], fun view => ?_⟩
      rw [List.foldl_append, same, joinChanges_append]
      exact foldl_applyView_joinChanges asset earlier changes view

theorem Joined.item {asset : String} {joined separate : List MarketBookEvent} {item : Item}
    (together : Joined asset joined separate) (snapshots : item.Snapshots) :
    Joined asset (item.addOf asset joined) (separate ++ item.addOf asset []) := by
  cases item with
  | book event =>
      by_cases same : event.assetId = asset
      · simpa [Item.addOf, same] using Joined.book snapshots.1
      · simpa [Item.addOf, same] using together
  | changes entries => exact together.changes (changesOf asset entries)

/-- The two ways end in one view exactly when no later change moves the last book. -/
theorem Joined.same_iff {asset : String} {joined separate : List MarketBookEvent}
    (together : Joined asset joined separate) (view : Option Sides × Bool) :
    joined.foldl applyView view = separate.foldl applyView view ↔
      ∀ held ∈ lastBook separate, held.2.foldl Sides.change held.1 = held.1 := by
  unfold Joined at together
  cases last : lastBook separate with
  | some held =>
      rw [last] at together
      obtain ⟨front, event, rfl, snapshot, levels⟩ := together
      have reached : (front ++ [event]).foldl applyView view = (some held.1, true) := by
        simp [applyView, Sides.apply, snapshot, levels]
      rw [reached, foldl_applyView_lastBook last]
      simp [eq_comm]
  | none =>
      rw [last] at together
      obtain ⟨_, _, same⟩ := together
      simp [same view]

/-! ## A whole message -/

/-- The events of the items, each parsed as a message of its own. -/
def separateEvents (items : List Json) : List MarketBookEvent :=
  items.flatMap fun item => (parseMarketBookEvents item).toOption.getD []

theorem applyEach_accepted {items : List Json} {before events : List MarketBookEvent}
    (accepted : handleItems items before = .ok events) (state : StreamBooks) (receivedNs : UInt64) :
    StreamBooks.applyEach receivedNs items state =
        .ok (state.applyAll (separateEvents items) receivedNs) ∧
      ∀ event ∈ separateEvents items, event.WellFormed := by
  induction items generalizing before state with
  | nil => exact ⟨rfl, by simp [separateEvents]⟩
  | cons item rest ih =>
      obtain ⟨middle, readItem, read⟩ := bind_ok accepted
      obtain ⟨added, _, adds⟩ := handleItem_reads readItem
      have own : parseMarketBookEvents item = .ok (added.add []) :=
        (parseMarketBookEvents_item readItem).trans (adds [])
      have listed : separateEvents (item :: rest) = added.add [] ++ separateEvents rest := by
        simp [separateEvents, own, Except.toOption]
      obtain ⟨applied, formed⟩ := ih read (state.applyAll (added.add []) receivedNs)
      constructor
      · simp only [StreamBooks.applyEach, own, listed, StreamBooks.applyAll, List.foldl_append]
        exact applied
      · intro event member
        rw [listed] at member
        obtain first | later := List.mem_append.mp member
        · exact parseMarketBookEvents_wellFormed own event first
        · exact formed event later

theorem joined_handleItems {asset : String} {items : List Json}
    {before events separate : List MarketBookEvent}
    (accepted : handleItems items before = .ok events)
    (together : Joined asset (eventsOf asset before) (eventsOf asset separate)) :
    Joined asset (eventsOf asset events) (eventsOf asset (separate ++ separateEvents items)) := by
  induction items generalizing before separate with
  | nil =>
      cases accepted
      simpa [separateEvents] using together
  | cons item rest ih =>
      obtain ⟨middle, readItem, read⟩ := bind_ok accepted
      obtain ⟨added, snapshots, adds⟩ := handleItem_reads readItem
      have own : parseMarketBookEvents item = .ok (added.add []) :=
        (parseMarketBookEvents_item readItem).trans (adds [])
      have listed : separate ++ separateEvents (item :: rest) =
          (separate ++ added.add []) ++ separateEvents rest := by
        simp [separateEvents, own, Except.toOption]
      have reached : middle = added.add before := Except.ok.inj (readItem.symm.trans (adds before))
      rw [listed]
      apply ih read
      rw [reached, eventsOf_add, eventsOf_append, eventsOf_add asset added []]
      exact together.item snapshots

/-- An accepted array leaves every asset as its elements do one after the other,
exactly when for every asset the changes after its last book item leave the levels
of that book as they are. -/
theorem arrayMessage_inOrder_iff {items : List Json} {events : List MarketBookEvent}
    (accepted : parseMarketBookEvents (.array items) = .ok events) (state : StreamBooks)
    (receivedNs : UInt64) :
    (∃ separate, StreamBooks.applyEach receivedNs items state = .ok separate ∧
      ∀ asset, (state.applyAll events receivedNs).view asset = separate.view asset) ↔
      ∀ asset, Settled asset (separateEvents items) := by
  obtain ⟨each, formed⟩ := applyEach_accepted (show handleItems items [] = .ok events from accepted)
    state receivedNs
  have same : ∀ asset, (state.applyAll events receivedNs).view asset =
      (state.applyAll (separateEvents items) receivedNs).view asset ↔
        Settled asset (separateEvents items) := by
    intro asset
    rw [view_applyAll (parseMarketBookEvents_wellFormed accepted), view_applyAll formed]
    have together := @joined_handleItems asset items [] events [] accepted (.nil asset)
    exact together.same_iff (state.view asset)
  constructor
  · intro inOrder asset
    obtain ⟨separate, reached, agree⟩ := inOrder
    cases each.symm.trans reached
    exact (same asset).mp (agree asset)
  · intro settled
    exact ⟨_, each, fun asset => (same asset).mpr (settled asset)⟩

def yesBook : Json := bookJson "yes" [] [levelJson "0.45" "20"]

def yesLower : Json := priceChangeJson [changeJson "yes" "0.44" "12" "SELL"]

def yesBookEvent : MarketBookEvent where
  assetId := "yes"
  snapshot := true
  asks := [⟨toDouble (9 / 20), 20⟩]

def yesLowerEvent : MarketBookEvent where
  assetId := "yes"
  changes := [⟨false, toDouble (11 / 25), 12⟩]

/-- A change in front of its book. -/
theorem arrayMessage_inOrder_iff_before :
    ∃ events separate, parseMarketBookEvents (.array [yesLower, yesBook]) = .ok events ∧
      StreamBooks.applyEach 1000 [yesLower, yesBook] .empty = .ok separate ∧
      ∀ asset, (StreamBooks.empty.applyAll events 1000).view asset = separate.view asset := by
  have accepted : parseMarketBookEvents (.array [yesLower, yesBook]) = .ok [yesLowerEvent, yesBookEvent] := by
    decide +kernel
  have listed : separateEvents [yesLower, yesBook] = [yesLowerEvent, yesBookEvent] := by
    decide +kernel
  have settled : ∀ asset, Settled asset (separateEvents [yesLower, yesBook]) := by
    intro asset held last
    rw [listed] at last
    by_cases same : "yes" = asset
    · simp [eventsOf, lastBook, yesLowerEvent, yesBookEvent, same] at last
      rw [← last]
      rfl
    · simp [eventsOf, lastBook, yesLowerEvent, yesBookEvent, same] at last
  obtain ⟨separate, each, agree⟩ := (arrayMessage_inOrder_iff accepted .empty 1000).mpr settled
  exact ⟨_, separate, accepted, each, agree⟩

/-- A change behind its book is lost: it went to the event of the snapshot, which
ignores it. -/
theorem changeAfterBook_lost :
    ∃ events, parseMarketBookEvents (.array [yesBook, yesLower]) = .ok events ∧
      ¬∃ separate, StreamBooks.applyEach 1000 [yesBook, yesLower] .empty = .ok separate ∧
        ∀ asset, (StreamBooks.empty.applyAll events 1000).view asset = separate.view asset := by
  have accepted : parseMarketBookEvents (.array [yesBook, yesLower]) =
      .ok [{ yesBookEvent with changes := yesLowerEvent.changes }] := by
    decide +kernel
  refine ⟨_, accepted, ?_⟩
  intro inOrder
  obtain ⟨separate, each, agree⟩ := inOrder
  have own := (@applyEach_accepted [yesBook, yesLower] [] _ accepted .empty 1000).1
  cases own.symm.trans each
  exact absurd (agree "yes") (by decide +kernel)

/-- Prices that lie apart as decimals may be one price as doubles: the change deletes
the level of its book. -/
example : ¬Settled "yes" (separateEvents [bookJson "yes" [] [levelJson "0.5" "10"],
    priceChangeJson [changeJson "yes" "0.499999999999" "0" "SELL"]]) := by
  unfold Settled
  decide +kernel

end Polymarket.Market
