import Mathlib.Tactic.NormNum
import Polymarket.Market.Book

/-! What the parser promises about its events and what one event does to a book:
sides stay strictly sorted, levels stay inside the market range, and a change
touches the one level whose price it names. -/

set_option autoImplicit false

namespace Polymarket.Market

/-! ## Well-formed events -/

/-- Inside the market range. -/
structure PriceLevel.Valid (level : PriceLevel) : Prop where
  positive : 0 < level.price
  belowOne : level.price < 1
  size : 0 ≤ level.size

/-- A side of a book: in order, without a repeated price, inside the market
range. -/
structure ValidSide (bids : Bool) (levels : List PriceLevel) : Prop where
  sorted : SortedBy PriceLevel.price (PriceBefore bids) levels
  valid : ∀ level ∈ levels, level.Valid

/-- What the parser promises about an event. -/
structure MarketBookEvent.WellFormed (event : MarketBookEvent) : Prop where
  bids : ValidSide true event.bids
  asks : ValidSide false event.asks
  changes : ∀ change ∈ event.changes, change.level.Valid

theorem ValidSide.nil (bids : Bool) : ValidSide bids [] := ⟨.nil, by simp⟩

theorem validateLevel_valid {level : PriceLevel} (valid : level.Valid) : validateLevel level = .ok () := by
  unfold validateLevel
  rw [if_neg]
  push Not
  exact ⟨valid.positive, valid.belowOne, valid.size⟩

theorem validateLevels_valid {levels : List PriceLevel} (valid : ∀ level ∈ levels, level.Valid) :
    validateLevels levels = .ok () := by
  induction levels with
  | nil => rfl
  | cons first rest ih =>
      obtain ⟨validFirst, validRest⟩ := List.forall_mem_cons.mp valid
      simp only [validateLevels, validateLevel_valid validFirst, ih validRest]
      rfl

/-! ## Sorting a side -/

theorem priceNotAfter_iff {bids : Bool} {left right : PriceLevel} :
    PriceNotAfter bids left right ↔ if bids then right.price ≤ left.price else left.price ≤ right.price := by
  cases bids with
  | true => simp [PriceNotAfter, PriceBefore]
  | false => simp [PriceNotAfter, PriceBefore]

instance (bids : Bool) : IsTrans PriceLevel (PriceNotAfter bids) where
  trans first second third := by
    simp only [priceNotAfter_iff]
    cases bids with
    | true => exact fun higher high => le_trans high higher
    | false => exact fun low lower => le_trans low lower

instance (bids : Bool) : Std.Total (PriceNotAfter bids) where
  total left right := by
    simp only [priceNotAfter_iff]
    cases bids with
    | true => exact le_total right.price left.price
    | false => exact le_total left.price right.price

theorem sortSide_perm (bids : Bool) (levels : List PriceLevel) :
    (sortSide bids levels).Perm levels := by
  unfold sortSide
  split
  · exact .refl _
  · exact List.perm_insertionSort _ _

theorem sortSide_chain (bids : Bool) (levels : List PriceLevel) :
    (sortSide bids levels).IsChain (PriceNotAfter bids) := by
  unfold sortSide
  split
  · next ordered => simpa using neighbours_iff.mp ordered
  · exact (List.pairwise_insertionSort (PriceNotAfter bids) levels).isChain

/-- A sorted side is left alone. -/
theorem sortSide_of_sorted {bids : Bool} {levels : List PriceLevel}
    (sorted : SortedBy PriceLevel.price (PriceBefore bids) levels) : sortSide bids levels = levels := by
  unfold sortSide
  rw [if_pos]
  rw [neighbours_iff]
  apply List.IsChain.imp _ sorted.isChain
  intro left right before
  exact decide_eq_true (asymm before)

/-- Two prices that are not in order and not equal are in the other order. -/
theorem before_of_not_before {bids : Bool} {left right : ℚ} (notBefore : ¬PriceBefore bids left right)
    (different : left ≠ right) : PriceBefore bids right left := by
  obtain below | same | above := trichotomous_of (PriceBefore bids) left right
  · exact absurd below notBefore
  · exact absurd same different
  · exact above

theorem addChange_wellFormed {assetId : String} {change : MarketPriceChange}
    (valid : change.level.Valid) {events : List MarketBookEvent}
    (formed : ∀ event ∈ events, event.WellFormed) :
    ∀ event ∈ addChange assetId change events, event.WellFormed := by
  induction events with
  | nil =>
      intro event member
      rw [addChange, List.mem_singleton] at member
      subst member
      exact ⟨.nil true, .nil false, by simpa using valid⟩
  | cons first rest ih =>
      obtain ⟨formedFirst, formedRest⟩ := List.forall_mem_cons.mp formed
      simp only [addChange]
      split
      · intro event member
        obtain rfl | later := List.mem_cons.mp member
        · refine ⟨formedFirst.bids, formedFirst.asks, ?_⟩
          intro other held
          obtain earlier | same := List.mem_append.mp held
          · exact formedFirst.changes other earlier
          · rw [List.mem_singleton.mp same]
            exact valid
        · exact formedRest event later
      · intro event member
        obtain rfl | later := List.mem_cons.mp member
        · exact formedFirst
        · exact ih formedRest event later

/-! ## Parsed events -/

variable [Rounding]

theorem parseLevel_ok {level : Json} {parsed : PriceLevel} (read : parseLevel level = .ok parsed) :
    parsed.Valid := by
  obtain ⟨price, _, read⟩ := bind_ok read
  obtain ⟨size, _, read⟩ := bind_ok read
  split at read
  · cases read
  · next inside =>
    cases read
    push Not at inside
    exact ⟨inside.1, inside.2.1, inside.2.2⟩

theorem parseLevels_ok {levels : List Json} {parsed : List PriceLevel}
    (read : parseLevels levels = .ok parsed) : ∀ level ∈ parsed, level.Valid := by
  induction levels generalizing parsed with
  | nil =>
      cases read
      simp
  | cons first rest ih =>
      simp only [parseLevels] at read
      split at read
      · cases read
      · obtain ⟨level, readLevel, read⟩ := bind_ok read
        obtain ⟨others, readOthers, read⟩ := bind_ok read
        cases read
        intro other member
        obtain rfl | later := List.mem_cons.mp member
        · exact parseLevel_ok readLevel
        · exact ih readOthers other later

theorem parseSide_ok {levels : List Json} {bids : Bool} {output : List PriceLevel}
    (read : parseSide levels bids = .ok output) : ValidSide bids output := by
  obtain ⟨parsed, readLevels, read⟩ := bind_ok read
  dsimp only at read
  split at read
  · next different =>
    cases read
    constructor
    · apply SortedBy.of_neighbours
      · exact sortSide_chain bids parsed
      · simpa using neighbours_iff.mp different
    · intro level member
      exact parseLevels_ok readLevels level ((sortSide_perm bids parsed).mem_iff.mp member)
  · cases read

theorem parseSnapshot_ok {message : Json} {assetId : String} {event : MarketBookEvent}
    (read : parseSnapshot message assetId = .ok event) :
    event.WellFormed ∧ event.assetId = assetId ∧ event.snapshot = true ∧ event.changes = [] := by
  unfold parseSnapshot at read
  split at read
  · obtain ⟨bids, readBids, read⟩ := bind_ok read
    obtain ⟨asks, readAsks, read⟩ := bind_ok read
    cases read
    exact ⟨⟨parseSide_ok readBids, parseSide_ok readAsks, by simp⟩, rfl, rfl, rfl⟩
  · cases read

theorem parseBook_ok {item : Json} {event : MarketBookEvent} (read : parseBook item = .ok event) :
    event.WellFormed ∧ event.assetId ≠ "" ∧ event.snapshot = true ∧ event.changes = [] := by
  unfold parseBook at read
  split at read
  · next assetId _ =>
    split at read
    · cases read
    · next named =>
      obtain ⟨formed, same, snapshot, changes⟩ := parseSnapshot_ok read
      exact ⟨formed, same ▸ named, snapshot, changes⟩
  · cases read

theorem parsePriceChange_ok {change : Json} {parsed : MarketPriceChange}
    (read : parsePriceChange change = .ok parsed) : parsed.level.Valid := by
  obtain ⟨buy, _, read⟩ := bind_ok read
  obtain ⟨level, readLevel, read⟩ := bind_ok read
  cases read
  exact parseLevel_ok readLevel

/-- An entry of a price change either adds one valid change or is skipped. -/
theorem handleChange_ok {events result : List MarketBookEvent} {change : Json}
    (read : handleChange events change = .ok result) :
    result = events ∨ ∃ assetId parsed, parsePriceChange change = .ok parsed ∧ assetId ≠ "" ∧
      result = addChange assetId parsed events := by
  unfold handleChange at read
  split at read
  · cases read
  · split at read
    · exact .inl (Except.ok.inj read).symm
    · obtain ⟨assetId, _, read⟩ := bind_ok read
      split at read
      · exact .inl (Except.ok.inj read).symm
      · next named =>
        obtain ⟨parsed, readChange, read⟩ := bind_ok read
        exact .inr ⟨assetId, parsed, readChange, named, (Except.ok.inj read).symm⟩

theorem handleChanges_wellFormed {changes : List Json} {events result : List MarketBookEvent}
    (read : handleChanges changes events = .ok result)
    (formed : ∀ event ∈ events, event.WellFormed) : ∀ event ∈ result, event.WellFormed := by
  induction changes generalizing events with
  | nil =>
      cases read
      exact formed
  | cons change rest ih =>
      obtain ⟨middle, readChange, read⟩ := bind_ok read
      apply ih read
      obtain rfl | ⟨assetId, parsed, readParsed, _, rfl⟩ := handleChange_ok readChange
      · exact formed
      · exact addChange_wellFormed (parsePriceChange_ok readParsed) formed

theorem handleItem_wellFormed {item : Json} {events result : List MarketBookEvent}
    (read : handleItem events item = .ok result)
    (formed : ∀ event ∈ events, event.WellFormed) : ∀ event ∈ result, event.WellFormed := by
  obtain ⟨eventType, _, read⟩ := bind_ok read
  split at read
  · obtain ⟨event, readBook, read⟩ := bind_ok read
    cases read
    intro other member
    obtain earlier | same := List.mem_append.mp member
    · exact formed other earlier
    · rw [List.mem_singleton.mp same]
      exact (parseBook_ok readBook).1
  · split at read
    · split at read
      · exact handleChanges_wellFormed read formed
      · cases read
        exact formed
    · cases read
      exact formed

theorem handleItems_wellFormed {items : List Json} {events result : List MarketBookEvent}
    (read : handleItems items events = .ok result)
    (formed : ∀ event ∈ events, event.WellFormed) : ∀ event ∈ result, event.WellFormed := by
  induction items generalizing events with
  | nil =>
      cases read
      exact formed
  | cons item rest ih =>
      obtain ⟨middle, readItem, read⟩ := bind_ok read
      exact ih read (handleItem_wellFormed readItem formed)

/-- Every parsed event is well formed. -/
theorem parseMarketBookEvents_wellFormed {parsed : Json} {events : List MarketBookEvent}
    (read : parseMarketBookEvents parsed = .ok events) : ∀ event ∈ events, event.WellFormed := by
  unfold parseMarketBookEvents at read
  split at read
  · exact handleItems_wellFormed read (by simp)
  · exact handleItem_wellFormed read (by simp)

/-! ## One change -/

theorem samePrice_self (price : ℚ) : SamePrice price price := by
  unfold SamePrice
  rw [sub_self, Rounding.round_zero, abs_zero]
  exact Rounding.positive tolerance (by decide +kernel)

/-- Prices apart by the tolerance are told apart in every format. -/
theorem not_samePrice {left right : ℚ} (apart : tolerance ≤ |left - right|) : ¬SamePrice left right := by
  unfold SamePrice
  rw [Rounding.abs_round, not_lt]
  exact Rounding.mono apart

/-- What the change does once the search has split the side. -/
theorem applyChange_split {front back : List PriceLevel} {bids : Bool} {change : PriceLevel}
    (below : ∀ level ∈ front, PriceBefore bids level.price change.price)
    (above : ∀ level ∈ back, ¬PriceBefore bids level.price change.price) :
    applyChange (front ++ back) change bids =
      match back with
      | [] => front ++ (if change.size ≤ 0 then [] else [change])
      | level :: rest =>
          if SamePrice level.price change.price then
            front ++ (if change.size ≤ 0 then [] else [change]) ++ rest
          else front ++ (if change.size ≤ 0 then [] else [change]) ++ level :: rest := by
  have found : lowerBound (fun level => decide (PriceBefore bids level.price change.price))
      (front ++ back) = front.length :=
    lowerBound_append (fun level member => decide_eq_true (below level member))
      (fun level member => decide_eq_false (above level member))
  unfold applyChange
  rw [found]
  cases back with
  | nil =>
      by_cases removed : change.size ≤ 0
      · simp [removed]
      · simp [removed]
  | cons level rest =>
      by_cases covered : SamePrice level.price change.price
      · by_cases removed : change.size ≤ 0
        · simp [covered, removed, List.eraseIdx_append_of_length_le]
        · simp [covered, removed]
      · by_cases removed : change.size ≤ 0
        · simp [covered, removed]
        · simp [covered, removed, insertIdx_between]

/-- A change replaces the levels that its price covers: nothing in front or
behind is touched. -/
theorem applyChange_covers {levels : List PriceLevel} {bids : Bool}
    (sorted : SortedBy PriceLevel.price (PriceBefore bids) levels) (change : PriceLevel) :
    ∃ front covered back, levels = front ++ covered ++ back ∧
      (∀ level ∈ front, PriceBefore bids level.price change.price) ∧
      (∀ level ∈ covered, SamePrice level.price change.price) ∧
      (∀ level ∈ back, PriceBefore bids change.price level.price) ∧
      applyChange levels change bids =
        front ++ (if change.size ≤ 0 then [] else [change]) ++ back := by
  obtain ⟨front, back, rfl, below, above⟩ := sorted.partitioned change.price
  have applied := applyChange_split below above
  cases back with
  | nil => exact ⟨front, [], [], by simp, below, by simp, by simp, by simpa using applied⟩
  | cons level rest =>
      obtain ⟨_, sortedBack, _⟩ := sortedBy_append.mp sorted
      obtain ⟨beforeRest, _⟩ := sortedBy_cons.mp sortedBack
      have notBelow := above level (by simp)
      by_cases covered : SamePrice level.price change.price
      · refine ⟨front, [level], rest, by simp, below, by simpa using covered, ?_, by simpa [covered] using applied⟩
        intro other member
        by_cases same : level.price = change.price
        · exact same ▸ beforeRest other member
        · exact IsTrans.trans _ _ _ (before_of_not_before notBelow same) (beforeRest other member)
      · refine ⟨front, [], level :: rest, by simp, below, by simp, ?_, by simpa [covered] using applied⟩
        have different : level.price ≠ change.price := by
          intro same
          exact covered (same ▸ samePrice_self level.price)
        have first := before_of_not_before notBelow different
        intro other member
        obtain rfl | later := List.mem_cons.mp member
        · exact first
        · exact IsTrans.trans _ _ _ first (beforeRest other later)

theorem applyChange_valid {levels : List PriceLevel} {bids : Bool} {change : PriceLevel}
    (side : ValidSide bids levels) (valid : change.Valid) :
    ValidSide bids (applyChange levels change bids) := by
  obtain ⟨front, covered, back, rfl, below, _, above, applied⟩ :=
    applyChange_covers side.sorted change
  rw [applied]
  constructor
  · by_cases removed : change.size ≤ 0
    · simpa [removed] using side.sorted.removed
    · simpa [removed] using side.sorted.placed below above
  · intro level member
    simp only [List.mem_append] at member
    obtain (inFront | new) | inBack := member
    · exact side.valid level (by simp [inFront])
    · split at new
      · simp at new
      · rw [List.mem_singleton.mp new]
        exact valid
    · exact side.valid level (by simp [inBack])

theorem applyChange_positive {levels : List PriceLevel} {bids : Bool}
    (sorted : SortedBy PriceLevel.price (PriceBefore bids) levels) (change : PriceLevel)
    (positive : ∀ level ∈ levels, 0 < level.size) :
    ∀ level ∈ applyChange levels change bids, 0 < level.size := by
  obtain ⟨front, covered, back, rfl, _, _, _, applied⟩ := applyChange_covers sorted change
  rw [applied]
  intro level member
  simp only [List.mem_append] at member
  obtain (inFront | new) | inBack := member
  · exact positive level (by simp [inFront])
  · split at new
    · simp at new
    · next kept =>
      rw [List.mem_singleton.mp new]
      exact lt_of_not_ge kept
  · exact positive level (by simp [inBack])

/-- With prices apart a change sets or deletes exactly its own price. -/
theorem mem_applyChange {levels : List PriceLevel} {bids : Bool} {change : PriceLevel}
    (sorted : SortedBy PriceLevel.price (PriceBefore bids) levels)
    (apart : ∀ level ∈ levels, level.price ≠ change.price →
      tolerance ≤ |level.price - change.price|) {level : PriceLevel} :
    level ∈ applyChange levels change bids ↔
      (level = change ∧ 0 < change.size) ∨ (level ∈ levels ∧ level.price ≠ change.price) := by
  obtain ⟨front, covered, back, rfl, below, near, above, applied⟩ := applyChange_covers sorted change
  have frontDiffers : ∀ other ∈ front, other.price ≠ change.price := by
    intro other member same
    exact irrefl (r := PriceBefore bids) change.price (same ▸ below other member)
  have backDiffers : ∀ other ∈ back, other.price ≠ change.price := by
    intro other member same
    exact irrefl (r := PriceBefore bids) change.price (same ▸ above other member)
  have coveredSame : ∀ other ∈ covered, other.price = change.price := by
    intro other member
    by_contra different
    have far := apart other (by simp [member]) different
    exact not_samePrice far (near other member)
  rw [applied]
  simp only [List.mem_append]
  constructor
  · intro member
    obtain (inFront | new) | inBack := member
    · exact .inr ⟨.inl (.inl inFront), frontDiffers level inFront⟩
    · split at new
      · simp at new
      · next kept => exact .inl ⟨List.mem_singleton.mp new, lt_of_not_ge kept⟩
    · exact .inr ⟨.inr inBack, backDiffers level inBack⟩
  · intro member
    obtain ⟨rfl, kept⟩ | ⟨(inFront | inCovered) | inBack, different⟩ := member
    · exact .inl (.inr (by simp [not_le.mpr kept]))
    · exact .inl (.inl inFront)
    · exact absurd (coveredSame level inCovered) different
    · exact .inr inBack

/-! ## Both sides of a book -/

structure Sides where
  bids : List PriceLevel
  asks : List PriceLevel
deriving DecidableEq

def Orderbook.sides (book : Orderbook) : Sides := ⟨book.bids, book.asks⟩

def Sides.side (sides : Sides) (bids : Bool) : List PriceLevel := if bids then sides.bids else sides.asks

def Sides.change (sides : Sides) (change : MarketPriceChange) : Sides :=
  if change.bid then { sides with bids := applyChange sides.bids change.level true }
  else { sides with asks := applyChange sides.asks change.level false }

/-- What an event that parses does to the two sides. -/
def Sides.apply (sides : Sides) (event : MarketBookEvent) : Sides :=
  if event.snapshot then ⟨event.bids, event.asks⟩ else event.changes.foldl Sides.change sides

def MarketBookEvent.side (event : MarketBookEvent) (bids : Bool) : List PriceLevel :=
  if bids then event.bids else event.asks

theorem Sides.side_change (sides : Sides) (change : MarketPriceChange) (bids : Bool) :
    (sides.change change).side bids =
      if change.bid = bids then applyChange (sides.side bids) change.level bids else sides.side bids := by
  obtain ⟨bid, level⟩ := change
  cases bid with
  | true => cases bids <;> simp [Sides.change, Sides.side]
  | false => cases bids <;> simp [Sides.change, Sides.side]

theorem applyChanges_valid {changes : List MarketPriceChange}
    (valid : ∀ change ∈ changes, change.level.Valid) (book : Orderbook) :
    (applyChanges changes book).2 = .ok () ∧
      (applyChanges changes book).1.sides = changes.foldl Sides.change book.sides := by
  induction changes generalizing book with
  | nil => exact ⟨rfl, rfl⟩
  | cons change rest ih =>
      obtain ⟨validChange, validRest⟩ := List.forall_mem_cons.mp valid
      simp only [applyChanges, validateLevel_valid validChange, List.foldl_cons]
      obtain ⟨applied, same⟩ := ih validRest
        (if change.bid then { book with bids := applyChange book.bids change.level true }
          else { book with asks := applyChange book.asks change.level false })
      refine ⟨applied, same.trans ?_⟩
      congr 1
      unfold Sides.change Orderbook.sides
      split <;> rfl

/-- A well-formed event never throws and moves the sides as described. -/
theorem applyMarketBookEvent_wellFormed {event : MarketBookEvent} (formed : event.WellFormed)
    (book : Orderbook) (receivedNs : UInt64) :
    (applyMarketBookEvent book event receivedNs).2 = .ok () ∧
      (applyMarketBookEvent book event receivedNs).1.sides = book.sides.apply event := by
  unfold applyMarketBookEvent Sides.apply
  cases snapshot : event.snapshot with
  | true =>
      have valid : validateLevels (event.bids ++ event.asks) = .ok () := by
        apply validateLevels_valid
        intro level member
        obtain bid | ask := List.mem_append.mp member
        · exact formed.bids.valid level bid
        · exact formed.asks.valid level ask
      simp [valid, sortSide_of_sorted formed.bids.sorted, sortSide_of_sorted formed.asks.sorted,
        Orderbook.sides]
  | false =>
      obtain ⟨applied, same⟩ := applyChanges_valid formed.changes { book with assetId := event.assetId }
      simp only [Bool.false_eq_true, ↓reduceIte, applied, true_and]
      exact same

end Polymarket.Market
