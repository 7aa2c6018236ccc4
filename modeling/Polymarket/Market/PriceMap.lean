import Polymarket.Market.BookProperties

/-! The cached book against a map from prices to sizes: a snapshot replaces the
map, a change sets a price or deletes it. -/

set_option autoImplicit false

namespace Polymarket.Market

/-- The sizes on one side of a book. -/
abbrev PriceMap := ℚ → Option ℚ

namespace PriceMap

def empty : PriceMap := fun _ => none

/-- The map with exactly the listed levels. -/
def listed (levels : List PriceLevel) : PriceMap := fun price =>
  (levels.find? fun level => level.price = price).map PriceLevel.size

def change (bids : Bool) (map : PriceMap) (change : MarketPriceChange) : PriceMap :=
  if change.bid = bids then
    Function.update map change.level.price
      (if 0 < change.level.size then some change.level.size else none)
  else map

def event (bids : Bool) (map : PriceMap) (event : MarketBookEvent) : PriceMap :=
  if event.snapshot then listed (event.side bids) else event.changes.foldl (change bids) map

/-- The reference for one side after a sequence of events. -/
def reference (bids : Bool) (events : List MarketBookEvent) : PriceMap :=
  events.foldl (PriceMap.event bids) empty

end PriceMap

/-- The levels are the entries of the map. -/
def Represents (levels : List PriceLevel) (map : PriceMap) : Prop :=
  ∀ level : PriceLevel, level ∈ levels ↔ map level.price = some level.size

theorem represents_listed {bids : Bool} {levels : List PriceLevel}
    (sorted : SortedBy PriceLevel.price (PriceBefore bids) levels) :
    Represents levels (PriceMap.listed levels) := by
  intro level
  simp only [PriceMap.listed, Option.map_eq_some_iff]
  constructor
  · intro member
    cases found : levels.find? fun other => decide (other.price = level.price) with
    | none =>
        have absent := List.find?_eq_none.mp found level member
        simp at absent
    | some other =>
        have same : other.price = level.price := by simpa using List.find?_some found
        have equal := sorted.unique (List.mem_of_find?_eq_some found) member same
        exact ⟨other, rfl, by rw [equal]⟩
  · intro entry
    obtain ⟨other, found, size⟩ := entry
    have same : other.price = level.price := by simpa using List.find?_some found
    have equal : other = level := PriceLevel.ext same size
    exact equal ▸ List.mem_of_find?_eq_some found

/-- One side refines its map; every price comes from a set whose members lie
apart. -/
structure Refines (known : ℚ → Prop) (bids : Bool) (levels : List PriceLevel) (map : PriceMap) :
    Prop where
  side : ValidSide bids levels
  named : ∀ level ∈ levels, known level.price
  entries : Represents levels map

def MarketBookEvent.prices (event : MarketBookEvent) : List ℚ :=
  event.bids.map PriceLevel.price ++ event.asks.map PriceLevel.price ++
    event.changes.map fun change => change.level.price

section Known

variable [Rounding] {known : ℚ → Prop}
  (apart : ∀ left right, known left → known right → left ≠ right → tolerance ≤ |left - right|)

include apart

theorem Refines.change {bids : Bool} {sides : Sides} {map : PriceMap} {change : MarketPriceChange}
    (refines : Refines known bids (sides.side bids) map) (valid : change.level.Valid)
    (named : known change.level.price) :
    Refines known bids ((sides.change change).side bids) (map.change bids change) := by
  rw [Sides.side_change, PriceMap.change]
  split
  · have separate : ∀ level ∈ sides.side bids, level.price ≠ change.level.price →
        tolerance ≤ |level.price - change.level.price| := by
      intro level member different
      exact apart _ _ (refines.named level member) named different
    constructor
    · exact applyChange_valid refines.side valid
    · intro level member
      obtain ⟨rfl, _⟩ | ⟨held, _⟩ := (mem_applyChange refines.side.sorted separate).mp member
      · exact named
      · exact refines.named level held
    · intro level
      rw [mem_applyChange refines.side.sorted separate]
      by_cases same : level.price = change.level.price
      · rw [same, Function.update_self]
        by_cases positive : 0 < change.level.size
        · simp only [positive, and_true, ↓reduceIte, Option.some.injEq, ne_eq,
            not_true_eq_false, and_false, or_false]
          constructor
          · intro equal
            rw [equal]
          · intro size
            exact PriceLevel.ext same size.symm
        · simp [positive]
      · rw [Function.update_of_ne same, ← refines.entries level]
        have different : level ≠ change.level := fun equal => same (by rw [equal])
        simp [same, different]
  · exact refines

theorem Refines.changes {bids : Bool} {changes : List MarketPriceChange} {sides : Sides}
    {map : PriceMap} (refines : Refines known bids (sides.side bids) map)
    (valid : ∀ change ∈ changes, change.level.Valid)
    (named : ∀ change ∈ changes, known change.level.price) :
    Refines known bids ((changes.foldl Sides.change sides).side bids)
      (changes.foldl (PriceMap.change bids) map) := by
  induction changes generalizing sides map with
  | nil => exact refines
  | cons change rest ih =>
      obtain ⟨validChange, validRest⟩ := List.forall_mem_cons.mp valid
      obtain ⟨namedChange, namedRest⟩ := List.forall_mem_cons.mp named
      exact ih (refines.change apart validChange namedChange) validRest namedRest

omit [Rounding] apart in
theorem refines_snapshot {event : MarketBookEvent} (formed : event.WellFormed)
    (named : ∀ price ∈ event.prices, known price) (bids : Bool) :
    Refines known bids (event.side bids) (.listed (event.side bids)) := by
  cases bids with
  | true =>
      refine ⟨formed.bids, ?_, represents_listed formed.bids.sorted⟩
      intro level member
      exact named _ (by simp [MarketBookEvent.prices]; exact .inl ⟨level, member, rfl⟩)
  | false =>
      refine ⟨formed.asks, ?_, represents_listed formed.asks.sorted⟩
      intro level member
      exact named _ (by simp [MarketBookEvent.prices]; exact .inr (.inl ⟨level, member, rfl⟩))

theorem Refines.event {bids : Bool} {event : MarketBookEvent} {sides : Sides} {map : PriceMap}
    (refines : Refines known bids (sides.side bids) map) (formed : event.WellFormed)
    (named : ∀ price ∈ event.prices, known price) :
    Refines known bids ((sides.apply event).side bids) (map.event bids event) := by
  unfold Sides.apply PriceMap.event
  cases snapshot : event.snapshot with
  | true =>
      simp only [↓reduceIte]
      exact refines_snapshot formed named bids
  | false =>
      simp only [Bool.false_eq_true, ↓reduceIte]
      apply refines.changes apart formed.changes
      intro change member
      exact named _ (by simp [MarketBookEvent.prices]; exact .inr (.inr ⟨change, member, rfl⟩))

theorem Refines.events {bids : Bool} {events : List MarketBookEvent} {sides : Sides}
    {map : PriceMap} (refines : Refines known bids (sides.side bids) map)
    (formed : ∀ event ∈ events, event.WellFormed)
    (named : ∀ event ∈ events, ∀ price ∈ event.prices, known price) :
    Refines known bids ((events.foldl Sides.apply sides).side bids)
      (events.foldl (PriceMap.event bids) map) := by
  induction events generalizing sides map with
  | nil => exact refines
  | cons event rest ih =>
      obtain ⟨formedEvent, formedRest⟩ := List.forall_mem_cons.mp formed
      obtain ⟨namedEvent, namedRest⟩ := List.forall_mem_cons.mp named
      exact ih (refines.event apart formedEvent namedEvent) formedRest namedRest

end Known

/-! ## The cached book -/

theorem SortedBy.prices_nodup {bids : Bool} {levels : List PriceLevel}
    (sorted : SortedBy PriceLevel.price (PriceBefore bids) levels) :
    (levels.map PriceLevel.price).Nodup := by
  rw [List.Nodup, List.pairwise_map]
  apply List.Pairwise.imp _ sorted
  intro left right before same
  exact irrefl (r := PriceBefore bids) right.price (same ▸ before)

section Formats

variable [Rounding]

/-- An event of some message that the parser accepts. -/
def Parsed (event : MarketBookEvent) : Prop :=
  ∃ message events, parseMarketBookEvents message = .ok events ∧ event ∈ events

theorem Parsed.wellFormed {event : MarketBookEvent} (parsed : Parsed event) : event.WellFormed := by
  obtain ⟨message, events, read, member⟩ := parsed
  exact parseMarketBookEvents_wellFormed read event member

/-- The book after events received at given times. -/
def applyEvents (book : Orderbook) (events : List (MarketBookEvent × UInt64)) : Orderbook :=
  events.foldl (fun book event => (applyMarketBookEvent book event.1 event.2).1) book

theorem applyEvents_sides {events : List (MarketBookEvent × UInt64)}
    (formed : ∀ event ∈ events, event.1.WellFormed) (book : Orderbook) :
    (applyEvents book events).sides = (events.map Prod.fst).foldl Sides.apply book.sides := by
  induction events generalizing book with
  | nil => rfl
  | cons event rest ih =>
      obtain ⟨formedEvent, formedRest⟩ := List.forall_mem_cons.mp formed
      have applied := (applyMarketBookEvent_wellFormed formedEvent book event.2).2
      calc (applyEvents book (event :: rest)).sides
          = (applyEvents (applyMarketBookEvent book event.1 event.2).1 rest).sides := rfl
        _ = (rest.map Prod.fst).foldl Sides.apply
              (applyMarketBookEvent book event.1 event.2).1.sides := ih formedRest _
        _ = _ := by rw [applied, List.map_cons, List.foldl_cons]

/-- Distinct prices of the events lie apart. -/
def PricesApart (events : List (MarketBookEvent × UInt64)) : Prop :=
  ∀ first ∈ events, ∀ second ∈ events, ∀ left ∈ first.1.prices, ∀ right ∈ second.1.prices,
    left ≠ right → tolerance ≤ |left - right|

/-- Each side of the book refines its reference after a snapshot and any events. -/
theorem refines_reference (book : Orderbook) {snapshot : MarketBookEvent × UInt64}
    {rest : List (MarketBookEvent × UInt64)} (parsed : ∀ event ∈ snapshot :: rest, Parsed event.1)
    (starts : snapshot.1.snapshot = true) (apart : PricesApart (snapshot :: rest)) (bids : Bool) :
    Refines (fun price => ∃ event ∈ snapshot :: rest, price ∈ event.1.prices) bids
      ((applyEvents book (snapshot :: rest)).sides.side bids)
      (.reference bids ((snapshot :: rest).map Prod.fst)) := by
  have formed : ∀ event ∈ snapshot :: rest, event.1.WellFormed := fun event member =>
    (parsed event member).wellFormed
  rw [applyEvents_sides formed]
  have separate : ∀ left right, (∃ event ∈ snapshot :: rest, left ∈ event.1.prices) →
      (∃ event ∈ snapshot :: rest, right ∈ event.1.prices) → left ≠ right →
      tolerance ≤ |left - right| := by
    intro left right leftNamed rightNamed
    obtain ⟨first, firstMember, leftMember⟩ := leftNamed
    obtain ⟨second, secondMember, rightMember⟩ := rightNamed
    exact apart first firstMember second secondMember left leftMember right rightMember
  have first : Refines (fun price => ∃ event ∈ snapshot :: rest, price ∈ event.1.prices) bids
      ((book.sides.apply snapshot.1).side bids)
      (PriceMap.empty.event bids snapshot.1) := by
    rw [Sides.apply, PriceMap.event, if_pos starts, if_pos starts]
    exact refines_snapshot (formed snapshot (by simp))
      (fun price member => ⟨snapshot, by simp, member⟩) bids
  apply first.events separate
  · intro event member
    obtain ⟨pair, held, rfl⟩ := List.mem_map.mp member
    exact formed pair (List.mem_cons_of_mem _ held)
  · intro event member price named
    obtain ⟨pair, held, rfl⟩ := List.mem_map.mp member
    exact ⟨pair, List.mem_cons_of_mem _ held, named⟩

/-- In every format that numbers may be held in, exact decimals and doubles among
them: after every event that follows a snapshot the book is in order, inside the
market range, without a repeated price, and holds exactly the entries of the
reference maps. -/
theorem book_refines_priceMap (book : Orderbook) {snapshot : MarketBookEvent × UInt64}
    {rest : List (MarketBookEvent × UInt64)} (parsed : ∀ event ∈ snapshot :: rest, Parsed event.1)
    (starts : snapshot.1.snapshot = true) (apart : PricesApart (snapshot :: rest)) :
    ∀ seen, seen <+: rest →
      let reached := applyEvents book (snapshot :: seen)
      reached.bids.Pairwise (fun left right => right.price < left.price) ∧
      reached.asks.Pairwise (fun left right => left.price < right.price) ∧
      (∀ level ∈ reached.bids ++ reached.asks, 0 < level.price ∧ level.price < 1) ∧
      (reached.bids.map PriceLevel.price).Nodup ∧ (reached.asks.map PriceLevel.price).Nodup ∧
      Represents reached.bids (.reference true ((snapshot :: seen).map Prod.fst)) ∧
      Represents reached.asks (.reference false ((snapshot :: seen).map Prod.fst)) := by
  intro seen started reached
  have within : ∀ event ∈ snapshot :: seen, event ∈ snapshot :: rest := by
    intro event member
    obtain rfl | later := List.mem_cons.mp member
    · simp
    · exact List.mem_cons_of_mem _ (started.subset later)
  have parsedSeen : ∀ event ∈ snapshot :: seen, Parsed event.1 := fun event member =>
    parsed event (within event member)
  have apartSeen : PricesApart (snapshot :: seen) := fun first firstMember second secondMember =>
    apart first (within first firstMember) second (within second secondMember)
  have bids := refines_reference book parsedSeen starts apartSeen true
  have asks := refines_reference book parsedSeen starts apartSeen false
  refine ⟨bids.side.sorted, asks.side.sorted, ?_, SortedBy.prices_nodup bids.side.sorted,
    SortedBy.prices_nodup asks.side.sorted, bids.entries, asks.entries⟩
  intro level member
  obtain bid | ask := List.mem_append.mp member
  · exact ⟨(bids.side.valid level bid).positive, (bids.side.valid level bid).belowOne⟩
  · exact ⟨(asks.side.valid level ask).positive, (asks.side.valid level ask).belowOne⟩

end Formats

/-! The messages of the stream's own test. -/

def levelJson (price size : String) : Json :=
  .object [("price", .string price), ("size", .string size)]

def bookJson (assetId : String) (bids asks : List Json) : Json :=
  .object [("asks", .array asks), ("asset_id", .string assetId), ("bids", .array bids),
    ("event_type", .string "book")]

def changeJson (assetId price size side : String) : Json :=
  .object [("asset_id", .string assetId), ("price", .string price), ("side", .string side),
    ("size", .string size)]

def priceChangeJson (changes : List Json) : Json :=
  .object [("event_type", .string "price_change"), ("price_changes", .array changes)]

def yesSnapshot [Rounding] : MarketBookEvent where
  assetId := "yes"
  snapshot := true
  bids := [⟨Rounding.round (2 / 5), 8⟩]
  asks := [⟨Rounding.round (9 / 20), 20⟩, ⟨Rounding.round (23 / 50), 5⟩]

def yesChanges [Rounding] : MarketBookEvent where
  assetId := "yes"
  changes := [⟨false, Rounding.round (9 / 20), 0⟩, ⟨false, Rounding.round (11 / 25), 12⟩,
    ⟨true, Rounding.round (2 / 5), 9⟩]

def yesEvents [Rounding] : List (MarketBookEvent × UInt64) := [(yesSnapshot, 1000), (yesChanges, 2000)]

def yesSnapshotJson : Json :=
  bookJson "yes" [levelJson "0.40" "8"] [levelJson "0.46" "5", levelJson "0.45" "20"]

def yesChangesJson : Json :=
  priceChangeJson [changeJson "yes" "0.45" "0" "SELL", changeJson "yes" "0.44" "12" "SELL",
    changeJson "yes" "0.40" "9" "BUY"]

theorem yesSnapshot_parsed : Parsed yesSnapshot :=
  ⟨yesSnapshotJson, [yesSnapshot], by decide +kernel, by simp⟩

theorem yesChanges_parsed : Parsed yesChanges :=
  ⟨yesChangesJson, [yesChanges], by decide +kernel, by simp⟩

theorem yesEvents_exact : ∀ event ∈ @yesEvents exactNumbers, @Parsed exactNumbers event.1 := by
  intro event member
  obtain rfl | later := List.mem_cons.mp member
  · exact ⟨yesSnapshotJson, [@yesSnapshot exactNumbers], by decide +kernel, by simp⟩
  · obtain rfl := List.mem_singleton.mp later
    exact ⟨yesChangesJson, [@yesChanges exactNumbers], by decide +kernel, by simp⟩

theorem book_refines_priceMap_test :
    let reached := @applyEvents exactNumbers {} (@yesEvents exactNumbers)
    reached.asks = [⟨11 / 25, 12⟩, ⟨23 / 50, 5⟩] ∧
      Represents reached.asks (.reference false ((@yesEvents exactNumbers).map Prod.fst)) := by
  intro reached
  have apart : PricesApart (@yesEvents exactNumbers) := by
    unfold PricesApart
    decide +kernel
  have refines := @book_refines_priceMap exactNumbers {} _ _ yesEvents_exact rfl apart _ (List.prefix_refl _)
  exact ⟨by decide +kernel, refines.2.2.2.2.2.2⟩

/-! ## Empty levels -/

/-- The snapshot with its zero-size levels deleted. -/
def MarketBookEvent.withoutEmptyLevels (event : MarketBookEvent) : MarketBookEvent :=
  { event with
    bids := event.bids.filter fun level => level.size ≠ 0
    asks := event.asks.filter fun level => level.size ≠ 0 }

/-- A side in order whose levels all have something to trade. -/
structure FilledSide (bids : Bool) (levels : List PriceLevel) : Prop where
  side : ValidSide bids levels
  filled : ∀ level ∈ levels, 0 < level.size

theorem FilledSide.change {bids : Bool} {sides : Sides} {change : MarketPriceChange}
    (filled : FilledSide bids (sides.side bids)) (valid : change.level.Valid) :
    FilledSide bids ((sides.change change).side bids) := by
  rw [Sides.side_change]
  split
  · exact ⟨applyChange_valid filled.side valid,
      applyChange_positive filled.side.sorted change.level filled.filled⟩
  · exact filled

theorem FilledSide.changes {bids : Bool} {changes : List MarketPriceChange} {sides : Sides}
    (filled : FilledSide bids (sides.side bids))
    (valid : ∀ change ∈ changes, change.level.Valid) :
    FilledSide bids ((changes.foldl Sides.change sides).side bids) := by
  induction changes generalizing sides with
  | nil => exact filled
  | cons change rest ih =>
      obtain ⟨validChange, validRest⟩ := List.forall_mem_cons.mp valid
      exact ih (filled.change validChange) validRest

theorem FilledSide.deltas {bids : Bool} {deltas : List MarketBookEvent} {sides : Sides}
    (filled : FilledSide bids (sides.side bids)) (formed : ∀ event ∈ deltas, event.WellFormed)
    (changes : ∀ event ∈ deltas, event.snapshot = false) :
    FilledSide bids ((deltas.foldl Sides.apply sides).side bids) := by
  induction deltas generalizing sides with
  | nil => exact filled
  | cons event rest ih =>
      obtain ⟨formedEvent, formedRest⟩ := List.forall_mem_cons.mp formed
      obtain ⟨changesEvent, changesRest⟩ := List.forall_mem_cons.mp changes
      have applied : FilledSide bids ((sides.apply event).side bids) := by
        simp only [Sides.apply, changesEvent, Bool.false_eq_true, ↓reduceIte]
        exact filled.changes formedEvent.changes
      exact ih applied formedRest changesRest

theorem Orderbook.top_filled {book : Orderbook} (filled : ∀ level ∈ book.asks, 0 < level.size)
    (offered : book.asks ≠ []) : 0 < book.top.askSize := by
  unfold Orderbook.top
  split
  · next nothing => exact absurd nothing offered
  · next best rest listed => exact filled best (by simp [listed])

/-- A snapshot and later changes never hold an empty level, reach the book of the
cleaned snapshot and report a top with something to trade, exactly when the
snapshot lists no empty level. -/
theorem noEmptyLevel_iff (book : Orderbook) {snapshot : MarketBookEvent × UInt64}
    (parsed : Parsed snapshot.1) (starts : snapshot.1.snapshot = true)
    {deltas : List (MarketBookEvent × UInt64)}
    (changes : ∀ event ∈ deltas, Parsed event.1 ∧ event.1.snapshot = false) :
    (∀ seen, seen <+: deltas →
      let reached := applyEvents book (snapshot :: seen)
      (∀ level ∈ reached.bids ++ reached.asks, level.size ≠ 0) ∧
      reached = applyEvents book ((snapshot.1.withoutEmptyLevels, snapshot.2) :: seen) ∧
      (reached.asks ≠ [] → 0 < reached.top.askSize)) ↔
      ∀ level ∈ snapshot.1.bids ++ snapshot.1.asks, level.size ≠ 0 := by
  have formed := parsed.wellFormed
  constructor
  · intro holds
    have first := (holds [] List.nil_prefix).1
    have sides : (applyEvents book [snapshot]).sides = ⟨snapshot.1.bids, snapshot.1.asks⟩ := by
      rw [applyEvents_sides (by simpa using formed)]
      simp [Sides.apply, starts]
    have bids : (applyEvents book [snapshot]).bids = snapshot.1.bids := congrArg Sides.bids sides
    have asks : (applyEvents book [snapshot]).asks = snapshot.1.asks := congrArg Sides.asks sides
    rwa [bids, asks] at first
  · intro filled seen started reached
    have clean : snapshot.1.withoutEmptyLevels = snapshot.1 := by
      unfold MarketBookEvent.withoutEmptyLevels
      rw [List.filter_eq_self.mpr, List.filter_eq_self.mpr]
      · intro level member
        simpa using filled level (by simp [member])
      · intro level member
        simpa using filled level (by simp [member])
    have formedSeen : ∀ event ∈ snapshot :: seen, event.1.WellFormed := by
      intro event member
      obtain rfl | later := List.mem_cons.mp member
      · exact formed
      · exact (changes event (started.subset later)).1.wellFormed
    have positive : ∀ level ∈ snapshot.1.bids ++ snapshot.1.asks, level.Valid → 0 < level.size :=
      fun level member valid => lt_of_le_of_ne valid.size (Ne.symm (filled level member))
    have sides := applyEvents_sides formedSeen book
    rw [List.map_cons, List.foldl_cons, Sides.apply, if_pos starts] at sides
    have side : ∀ bids, FilledSide bids (reached.sides.side bids) := by
      intro bids
      rw [sides]
      apply FilledSide.deltas
      · cases bids with
        | true => exact ⟨formed.bids, fun level member =>
            positive level (by simp [show level ∈ snapshot.1.bids from member])
              (formed.bids.valid level member)⟩
        | false => exact ⟨formed.asks, fun level member =>
            positive level (by simp [show level ∈ snapshot.1.asks from member])
              (formed.asks.valid level member)⟩
      · intro event member
        obtain ⟨pair, held, rfl⟩ := List.mem_map.mp member
        exact formedSeen pair (List.mem_cons_of_mem _ held)
      · intro event member
        obtain ⟨pair, held, rfl⟩ := List.mem_map.mp member
        exact (changes pair (started.subset held)).2
    refine ⟨?_, by rw [clean], Orderbook.top_filled (side false).filled⟩
    intro level member
    obtain bid | ask := List.mem_append.mp member
    · exact ne_of_gt ((side true).filled level bid)
    · exact ne_of_gt ((side false).filled level ask)

theorem noEmptyLevel_iff_test :
    (∀ level ∈ (applyEvents {} [(yesSnapshot, 1000), (yesChanges, 2000)]).asks, level.size ≠ 0) ∧
      applyEvents {} [(yesSnapshot, 1000), (yesChanges, 2000)] =
        applyEvents {} [(yesSnapshot.withoutEmptyLevels, 1000), (yesChanges, 2000)] := by
  have changes : ∀ event ∈ [(yesChanges, (2000 : UInt64))],
      Parsed event.1 ∧ event.1.snapshot = false := by
    intro event member
    rw [List.mem_singleton.mp member]
    exact ⟨yesChanges_parsed, rfl⟩
  have holds := (@noEmptyLevel_iff {} (yesSnapshot, 1000) yesSnapshot_parsed rfl _ changes).mpr
    (by decide +kernel) [(yesChanges, 2000)] (List.prefix_refl _)
  constructor
  · intro level member
    exact holds.1 level (List.mem_append_right _ member)
  · exact holds.2.1

def emptySnapshot : MarketBookEvent where
  assetId := "yes"
  snapshot := true
  asks := [⟨toDouble (9 / 20), 0⟩]

/-- A snapshot with an empty ask keeps it at the top of the book. -/
theorem emptyLevel_held :
    Parsed emptySnapshot ∧ emptySnapshot.snapshot = true ∧
      (applyEvents {} [(emptySnapshot, 1000)]).asks = [⟨toDouble (9 / 20), 0⟩] ∧
      (applyEvents {} [(emptySnapshot, 1000)]).top.askSize = 0 ∧
      (applyEvents {} [(emptySnapshot.withoutEmptyLevels, 1000)]).asks = [] := by
  refine ⟨⟨bookJson "yes" [] [levelJson "0.45" "0"], [emptySnapshot], ?_, by simp⟩, ?_⟩
  · decide +kernel
  · decide +kernel

end Polymarket.Market
