import Mathlib.Algebra.Order.BigOperators.Group.List
import Polymarket.Orders.MarketDepth

/-! The depth limit in terms of the levels alone: the best price whose depth covers
the order that is signed there, whatever the order of the listing. -/

set_option autoImplicit false

namespace Polymarket.Orders

open Market (PriceLevel Orderbook)

/-! ## Levels -/

def ValidLevel (level : PriceLevel) : Prop := ∃ units, levelUnits level = .ok units

structure LevelUnits.Of (units : LevelUnits) (level : PriceLevel) : Prop where
  price : level.price * 10 ^ 6 = units.price.toNat
  size : level.size * 10 ^ 6 = units.size.toNat
  positive : 0 < units.price.toNat
  below : units.price.toNat < 10 ^ 6

theorem levelUnits_ok {level : PriceLevel} {units : LevelUnits} (read : levelUnits level = .ok units) :
    units.Of level := by
  unfold levelUnits at read
  split at read
  · cases read
  · obtain ⟨size, sized, read⟩ := bind_ok read
    obtain ⟨price, priced, read⟩ := bind_ok read
    split at read
    · cases read
    · next inside =>
      cases read
      rw [not_or, UInt64.not_le, UInt64.lt_iff_toNat_lt] at inside
      constructor
      · exact (exactDecimalToScaledUint64_ok priced).2
      · exact (exactDecimalToScaledUint64_ok sized).2
      · rw [Nat.pos_iff_ne_zero]
        intro isZero
        exact inside.1 (UInt64.toNat_inj.mp isZero)
      · exact inside.2

theorem ValidLevel.size_nonneg {level : PriceLevel} (valid : ValidLevel level) : 0 ≤ level.size := by
  obtain ⟨units, read⟩ := valid
  have whole := (levelUnits_ok read).size
  have : (0 : ℚ) ≤ level.size * 10 ^ 6 := by
    rw [whole]
    exact Nat.cast_nonneg _
  exact nonneg_of_mul_nonneg_left this (by norm_num)

theorem ValidLevel.price_positive {level : PriceLevel} (valid : ValidLevel level) : 0 < level.price := by
  obtain ⟨units, read⟩ := valid
  have facts := levelUnits_ok read
  have : (0 : ℚ) < level.price * 10 ^ 6 := by
    rw [facts.price]
    exact_mod_cast facts.positive
  exact pos_of_mul_pos_left this (by norm_num)

/-! ## Depth -/

/-- What a level offers to a BUY in collateral, to a SELL in shares, in millionths. -/
def offered (side : OrderSide) (level : PriceLevel) : ℚ :=
  (if side = .buy then level.size * level.price else level.size) * 10 ^ 6

def depth (side : OrderSide) (levels : List PriceLevel) : ℚ := (levels.map (offered side)).sum

/-- The levels that are at a price or better. -/
def atOrBetter (side : OrderSide) (levels : List PriceLevel) (price : ℚ) : List PriceLevel :=
  levels.filter fun level => !decide (Better side price level.price)

@[simp] theorem depth_nil (side : OrderSide) : depth side [] = 0 := rfl

@[simp] theorem depth_append (side : OrderSide) (front back : List PriceLevel) :
    depth side (front ++ back) = depth side front + depth side back := by
  simp [depth]

@[simp] theorem depth_singleton (side : OrderSide) (level : PriceLevel) :
    depth side [level] = offered side level := by
  simp [depth]

theorem offered_nonneg {level : PriceLevel} (valid : ValidLevel level) (side : OrderSide) :
    0 ≤ offered side level := by
  have size := valid.size_nonneg
  have price := valid.price_positive
  unfold offered
  split
  · positivity
  · positivity

theorem depth_nonneg {levels : List PriceLevel} (valid : ∀ level ∈ levels, ValidLevel level)
    (side : OrderSide) : 0 ≤ depth side levels := by
  apply List.sum_nonneg
  intro value member
  obtain ⟨level, listed, rfl⟩ := List.mem_map.mp member
  exact offered_nonneg (valid level listed) side

theorem depth_perm {levels other : List PriceLevel} (perm : levels.Perm other) (side : OrderSide) :
    depth side levels = depth side other :=
  (perm.map _).sum_eq

theorem atOrBetter_append (side : OrderSide) (front back : List PriceLevel) (price : ℚ) :
    atOrBetter side (front ++ back) price = atOrBetter side front price ++ atOrBetter side back price :=
  List.filter_append ..

theorem mem_atOrBetter {side : OrderSide} {levels : List PriceLevel} {price : ℚ} {level : PriceLevel} :
    level ∈ atOrBetter side levels price ↔ level ∈ levels ∧ ¬Better side price level.price := by
  simp [atOrBetter]

theorem atOrBetter_all {side : OrderSide} {levels : List PriceLevel} {price : ℚ}
    (notWorse : ∀ level ∈ levels, ¬Better side price level.price) : atOrBetter side levels price = levels := by
  apply List.filter_eq_self.mpr
  intro level member
  simpa using notWorse level member

theorem atOrBetter_none {side : OrderSide} {levels : List PriceLevel} {price : ℚ}
    (worse : ∀ level ∈ levels, Better side price level.price) : atOrBetter side levels price = [] := by
  apply List.filter_eq_nil_iff.mpr
  intro level member
  simpa using worse level member

/-! ## The decision at one price -/

section Search

variable (side : OrderSide) (amount : ℚ) (tickSize : String)

/-- The depth at a price or better covers the order that is signed there. -/
def Covers (levels : List PriceLevel) (price : ℚ) (order : OrderAmounts) : Prop :=
  (order.maker.toNat : ℚ) ≤ depth side (atOrBetter side levels price)

instance (levels : List PriceLevel) (price : ℚ) (order : OrderAmounts) :
    Decidable (Covers side levels price order) :=
  inferInstanceAs (Decidable (_ ≤ _))

/-- What ends the search at a price, if anything. -/
def decision (levels : List PriceLevel) (price : ℚ) : Option (Except CppError DepthLimit) :=
  match signedAt side amount tickSize price with
  | .error error => some (.error error)
  | .ok order => if Covers side levels price order then some (.ok ⟨price, true⟩) else none

/-- The outcome of a search: the best price that decides it, or the worst price. -/
def Decided (levels : List PriceLevel) (result : Except CppError DepthLimit) : Prop :=
  (∃ level ∈ levels, decision side amount tickSize levels level.price = some result ∧
    ∀ other ∈ levels, Better side other.price level.price →
      decision side amount tickSize levels other.price = none) ∨
  ((∀ level ∈ levels, decision side amount tickSize levels level.price = none) ∧
    ∃ worst ∈ levels, (∀ other ∈ levels, ¬Better side worst.price other.price) ∧
      result = .ok ⟨worst.price, false⟩)

variable {side amount tickSize}

theorem decision_congr {levels other : List PriceLevel} {price : ℚ}
    (same : depth side (atOrBetter side levels price) = depth side (atOrBetter side other price)) :
    decision side amount tickSize levels price = decision side amount tickSize other price := by
  have covered (order : OrderAmounts) : Covers side levels price order ↔ Covers side other price order := by
    unfold Covers
    rw [same]
  simp only [decision, covered]

theorem decision_perm {levels other : List PriceLevel} (perm : levels.Perm other) (price : ℚ) :
    decision side amount tickSize levels price = decision side amount tickSize other price :=
  decision_congr (depth_perm (perm.filter _) side)

theorem Decided.perm {levels other : List PriceLevel} {result : Except CppError DepthLimit}
    (decided : Decided side amount tickSize levels result) (perm : levels.Perm other) :
    Decided side amount tickSize other result := by
  obtain ⟨level, member, stops, earlier⟩ | ⟨undecided, worst, member, last, same⟩ := decided
  · left
    refine ⟨level, perm.mem_iff.mp member, (decision_perm perm _).symm.trans stops, ?_⟩
    intro better listed before
    exact (decision_perm perm _).symm.trans (earlier better (perm.mem_iff.mpr listed) before)
  · right
    constructor
    · intro level listed
      exact (decision_perm perm _).symm.trans (undecided level (perm.mem_iff.mpr listed))
    · exact ⟨worst, perm.mem_iff.mp member, fun better listed => last better (perm.mem_iff.mpr listed), same⟩

/-- The levels decide one outcome. -/
theorem Decided.unique {levels : List PriceLevel} {left right : Except CppError DepthLimit}
    (decided : Decided side amount tickSize levels left) (other : Decided side amount tickSize levels right) :
    left = right := by
  obtain ⟨level, member, stops, earlier⟩ | ⟨undecided, worst, member, last, same⟩ := decided
  · obtain ⟨level', member', stops', earlier'⟩ | ⟨undecided', _⟩ := other
    · obtain before | equal | after := trichotomous_of (Better side) level.price level'.price
      · rw [earlier' level member before] at stops
        cases stops
      · rw [← equal, stops] at stops'
        exact Option.some.inj stops'
      · rw [earlier level' member' after] at stops'
        cases stops'
    · rw [undecided' level member] at stops
      cases stops
  · obtain ⟨level', member', stops', earlier'⟩ | ⟨undecided', worst', member', last', same'⟩ := other
    · rw [undecided level' member'] at stops'
      cases stops'
    · obtain before | equal | after := trichotomous_of (Better side) worst.price worst'.price
      · exact absurd before (last worst' member')
      · rw [same, same', equal]
      · exact absurd after (last' worst member)

/-! ## One level of the search -/

/-- The running totals stand for the depth of the levels visited. -/
structure Totals (side : OrderSide) (visited : List PriceLevel) (search : DepthSearch) : Prop where
  notional : side = .buy → ∃ exact_, search.availableNotional.Represents exact_ ∧
    (exact_ : ℚ) = depth side visited * 10 ^ 6
  size : side ≠ .buy → ∃ exact_, search.availableSize.Represents exact_ ∧ (exact_ : ℚ) = depth side visited

theorem totals_start (side : OrderSide) : Totals side [] {} := by
  constructor
  · intro _
    use 0
    constructor
    · exact .of_exact rfl rfl (by decide)
    · simp
  · intro _
    use 0
    constructor
    · constructor
      · intro impossible
        cases impossible
      · intro _
        rfl
    · simp

theorem covers_notional {total : AccumulatedNotional} {exact_ : Nat} (represents : total.Represents exact_)
    {available : ℚ} (same : (exact_ : ℚ) = available * 10 ^ 6) (target : UInt64) :
    total.covers target = true ↔ (target.toNat : ℚ) ≤ available := by
  rw [represents.covers_iff, Nat.le_div_iff_mul_le (by decide), ← Nat.cast_le (α := ℚ), same, Nat.cast_mul,
    Nat.cast_pow, Nat.cast_ofNat]
  exact mul_le_mul_iff_left₀ (by norm_num)

/-- Visiting a level adds it to the totals and compares them with its order. -/
theorem searchLevel_ok {visited : List PriceLevel} {search : DepthSearch} (totals : Totals side visited search)
    {level : PriceLevel} (valid : ValidLevel level) {order : OrderAmounts}
    (signed : signedAt side amount tickSize level.price = .ok order) :
    ∃ covered next, searchLevel side amount tickSize level search = .ok (covered, next) ∧
      Totals side (visited ++ [level]) next ∧ next.limit = ⟨level.price, covered⟩ ∧
      (covered = true ↔ (order.maker.toNat : ℚ) ≤ depth side (visited ++ [level])) := by
  obtain ⟨units, read⟩ := valid
  have facts := levelUnits_ok read
  unfold searchLevel
  rw [read, ok_bind, signed, ok_bind]
  by_cases buys : side = .buy
  · obtain ⟨exact_, represents, same⟩ := totals.notional buys
    obtain ⟨notional, added, represents⟩ :=
      represents.add units.size facts.positive facts.below
    have ran : Id.run (addNotional wrapping search.availableNotional units.size units.price) = notional :=
      addNotional_agrees _ _ _ notional added
    have grown : ((exact_ + units.size.toNat * units.price.toNat : Nat) : ℚ) =
        depth side (visited ++ [level]) * 10 ^ 6 := by
      rw [depth_append, depth_singleton, offered, if_pos buys, Nat.cast_add, Nat.cast_mul, same, ← facts.price,
        ← facts.size]
      ring
    rw [if_pos buys]
    dsimp only
    rw [ran]
    refine ⟨_, _, rfl, ?_, rfl, covers_notional represents grown order.maker⟩
    constructor
    · intro _
      exact ⟨_, represents, grown⟩
    · intro sells
      exact absurd buys sells
  · obtain ⟨exact_, represents, same⟩ := totals.size buys
    obtain ⟨size, added, represents⟩ := represents.add units.size
    have ran : Id.run (addSize wrapping search.availableSize units.size) = size :=
      addSize_agrees _ _ size added
    have grown : ((exact_ + units.size.toNat : Nat) : ℚ) = depth side (visited ++ [level]) := by
      rw [depth_append, depth_singleton, offered, if_neg buys, Nat.cast_add, same, ← facts.size]
    rw [if_neg buys]
    dsimp only
    rw [ran]
    refine ⟨_, _, rfl, ?_, rfl, ?_⟩
    · constructor
      · intro impossible
        exact absurd impossible buys
      · intro _
        exact ⟨_, represents, grown⟩
    · rw [represents.covers_iff, ← grown, Nat.cast_le]

theorem searchLevel_error {search : DepthSearch} {level : PriceLevel} (valid : ValidLevel level)
    {error : CppError} (thrown : signedAt side amount tickSize level.price = .error error) :
    searchLevel side amount tickSize level search = .error error := by
  obtain ⟨units, read⟩ := valid
  unfold searchLevel
  rw [read, ok_bind, thrown, error_bind]

/-! ## The whole search -/

/-- What holds after visiting levels without stopping. -/
structure Searching (side : OrderSide) (amount : ℚ) (tickSize : String) (visited : List PriceLevel)
    (search : DepthSearch) : Prop where
  totals : Totals side visited search
  undecided : ∀ level ∈ visited, decision side amount tickSize visited level.price = none
  limit : ∀ last, visited.getLast? = some last → search.limit = ⟨last.price, false⟩

/-- In order, what is at or better than a visited price is visited. -/
theorem atOrBetter_visited {visited rest : List PriceLevel} {level : PriceLevel}
    (inOrder : InOrder PriceLevel.price (Better side) (visited ++ level :: rest)) {price : ℚ}
    (better : Better side price level.price) :
    atOrBetter side (visited ++ level :: rest) price = atOrBetter side visited price := by
  have worse : atOrBetter side (level :: rest) price = [] := by
    apply atOrBetter_none
    intro later member
    obtain rfl | listed := List.mem_cons.mp member
    · exact better
    · have notBetter := (List.pairwise_cons.mp (List.pairwise_append.mp inOrder).2.1).1 later listed
      obtain before | same | after := trichotomous_of (Better side) level.price later.price
      · exact IsTrans.trans _ _ _ better before
      · exact same ▸ better
      · exact absurd after notBetter
  rw [atOrBetter_append, worse, List.append_nil]

theorem visited_atOrBetter {visited rest : List PriceLevel} {level : PriceLevel}
    (inOrder : InOrder PriceLevel.price (Better side) (visited ++ level :: rest)) :
    atOrBetter side (visited ++ [level]) level.price = visited ++ [level] := by
  apply atOrBetter_all
  intro other member
  obtain listed | same := List.mem_append.mp member
  · exact (List.pairwise_append.mp inOrder).2.2 other listed level List.mem_cons_self
  · rw [List.mem_singleton.mp same]
    exact irrefl level.price

/-- What the visit has added is part of the depth at the last price. -/
theorem depth_visited_le {visited rest : List PriceLevel} {level : PriceLevel}
    (valid : ∀ later ∈ rest, ValidLevel later)
    (inOrder : InOrder PriceLevel.price (Better side) (visited ++ level :: rest)) :
    depth side (visited ++ [level]) ≤ depth side (atOrBetter side (visited ++ level :: rest) level.price) := by
  have apart : visited ++ level :: rest = visited ++ [level] ++ rest := by simp
  have nonneg : 0 ≤ depth side (atOrBetter side rest level.price) := by
    apply depth_nonneg
    intro later listed
    exact valid later (mem_atOrBetter.mp listed).1
  rw [apart, atOrBetter_append, visited_atOrBetter inOrder, depth_append side (visited ++ [level])]
  linarith

theorem searchLevel_decides {levels : List PriceLevel} (valid : ∀ level ∈ levels, ValidLevel level)
    (inOrder : InOrder PriceLevel.price (Better side) levels) (visited : List PriceLevel) (level : PriceLevel)
    (rest : List PriceLevel) (search : DepthSearch) (whole : levels = visited ++ level :: rest)
    (searching : Searching side amount tickSize visited search) :
    StepHolds (fun result => Decided side amount tickSize levels (result.map DepthSearch.limit))
      (Searching side amount tickSize (visited ++ [level])) (searchLevel side amount tickSize level search) := by
  have member : level ∈ levels := by simp [whole]
  have ordered : InOrder PriceLevel.price (Better side) (visited ++ level :: rest) := whole ▸ inOrder
  have earlier : ∀ other ∈ levels, Better side other.price level.price →
      decision side amount tickSize levels other.price = none := by
    intro other listed better
    have local_ := atOrBetter_visited ordered better
    have same : decision side amount tickSize levels other.price =
        decision side amount tickSize visited other.price := decision_congr (by rw [whole, local_])
    rw [same]
    apply searching.undecided
    have included : other ∈ atOrBetter side levels other.price :=
      mem_atOrBetter.mpr ⟨listed, irrefl other.price⟩
    rw [whole, local_] at included
    exact (mem_atOrBetter.mp included).1
  cases signed : signedAt side amount tickSize level.price with
  | error error =>
      rw [searchLevel_error (valid level member) signed]
      left
      refine ⟨level, member, ?_, earlier⟩
      rw [decision, signed]
      rfl
  | ok order =>
      obtain ⟨covered, next, stepped, totals, limited, covers⟩ :=
        searchLevel_ok searching.totals (valid level member) signed
      rw [stepped]
      cases covered with
      | true =>
          left
          refine ⟨level, member, ?_, earlier⟩
          have enough : Covers side levels level.price order := by
            rw [Covers, whole]
            refine (covers.mp rfl).trans (depth_visited_le ?_ ordered)
            intro later listed
            apply valid
            rw [whole]
            exact List.mem_append_right _ (List.mem_cons_of_mem _ listed)
          rw [decision, signed]
          dsimp only
          rw [if_pos enough, Except.map, limited]
      | false =>
          have uncovered : decision side amount tickSize (visited ++ [level]) level.price = none := by
            rw [decision, signed]
            dsimp only
            rw [if_neg]
            intro enough
            rw [Covers, visited_atOrBetter ordered] at enough
            cases covers.mpr enough
          constructor
          · exact totals
          · intro other listed
            by_cases better : Better side other.price level.price
            · have front : atOrBetter side (visited ++ [level]) other.price =
                  atOrBetter side visited other.price := atOrBetter_visited (ordered.sublist (by simp)) better
              have same : decision side amount tickSize (visited ++ [level]) other.price =
                  decision side amount tickSize visited other.price := decision_congr (by rw [front])
              rw [same]
              apply searching.undecided
              obtain known | same := List.mem_append.mp listed
              · exact known
              · rw [List.mem_singleton.mp same] at better
                exact absurd better (irrefl level.price)
            · -- A level at the same price has the same order and the same depth.
              have same : other.price = level.price := by
                obtain known | same := List.mem_append.mp listed
                · obtain before | same | after := trichotomous_of (Better side) other.price level.price
                  · exact absurd before better
                  · exact same
                  · exact absurd after
                      ((List.pairwise_append.mp ordered).2.2 other known level List.mem_cons_self)
                · rw [List.mem_singleton.mp same]
              rw [same]
              exact uncovered
          · intro last ended
            rw [List.getLast?_append_of_ne_nil _ (by simp)] at ended
            cases ended
            exact limited

variable (tickSize) in
/-- The search ends as the levels decide. -/
theorem findDepthLimit_decided (sort : LevelSort side) (book : Orderbook) (positive : 0 < amount)
    (listed : bookLevels side book ≠ []) (valid : ∀ level ∈ bookLevels side book, ValidLevel level) :
    Decided side amount tickSize (bookLevels side book) (findDepthLimit sort book amount tickSize) := by
  have perm := visitOrder_perm sort (bookLevels side book)
  have inOrder := visitOrder_inOrder sort (bookLevels side book)
  have validOrder : ∀ level ∈ visitOrder sort (bookLevels side book), ValidLevel level :=
    fun level member => valid level (perm.mem_iff.mp member)
  have start : Searching side amount tickSize [] {} := by
    constructor
    · exact totals_start side
    · intro level impossible
      cases impossible
    · intro last impossible
      cases impossible
  have found : findDepthLimit sort book amount tickSize =
      (visitUntil (searchLevel side amount tickSize) (visitOrder sort (bookLevels side book)) {}).map
        DepthSearch.limit := by
    unfold findDepthLimit
    rw [if_neg (not_le.mpr positive), if_neg listed]
    rfl
  rw [found]
  refine Decided.perm ?_ perm
  obtain stopped | ⟨last, ran, searching⟩ := visitUntil_spec (searchLevel_decides validOrder inOrder) start
  · exact stopped
  · right
    constructor
    · exact searching.undecided
    · have nonempty : visitOrder sort (bookLevels side book) ≠ [] := by
        intro empty
        rw [empty] at perm
        exact listed perm.symm.eq_nil
      obtain ⟨front, worst, apart⟩ := List.eq_nil_or_concat' (visitOrder sort (bookLevels side book)) |>.resolve_left nonempty
      use worst
      rw [ran, apart]
      rw [apart] at inOrder
      constructor
      · simp
      constructor
      · intro other member
        obtain known | same := List.mem_append.mp member
        · exact (List.pairwise_append.mp inOrder).2.2 other known worst List.mem_cons_self
        · rw [List.mem_singleton.mp same]
          exact irrefl worst.price
      · rw [Except.map, searching.limit worst (by rw [apart, List.getLast?_concat])]

/-! ## What the levels decide -/

variable (side amount tickSize) in
def CoveredAt (levels : List PriceLevel) (price : ℚ) : Prop :=
  ∃ order, signedAt side amount tickSize price = .ok order ∧ Covers side levels price order

theorem decision_ok {levels : List PriceLevel} {price : ℚ} {limit : DepthLimit}
    (decided : decision side amount tickSize levels price = some (.ok limit)) :
    limit = ⟨price, true⟩ ∧ CoveredAt side amount tickSize levels price := by
  unfold decision at decided
  split at decided
  · cases decided
  · next order signed =>
    split at decided
    · next covers =>
      cases decided
      exact ⟨rfl, order, signed, covers⟩
    · cases decided

theorem decision_none {levels : List PriceLevel} {price : ℚ}
    (undecided : decision side amount tickSize levels price = none) :
    ¬CoveredAt side amount tickSize levels price := by
  rintro ⟨order, signed, covers⟩
  rw [decision, signed] at undecided
  dsimp only at undecided
  rw [if_pos covers] at undecided
  cases undecided

variable (side amount tickSize) in
/-- The limit is the best covered price of the book, or its worst price. -/
structure LimitOf (levels : List PriceLevel) (limit : DepthLimit) : Prop where
  fillable : limit.fullyFillable = true ↔ ∃ level ∈ levels, CoveredAt side amount tickSize levels level.price
  listed : ∃ level ∈ levels, level.price = limit.price
  best : limit.fullyFillable = true → CoveredAt side amount tickSize levels limit.price ∧
    ∀ other ∈ levels, CoveredAt side amount tickSize levels other.price → ¬Better side other.price limit.price
  worst : limit.fullyFillable = false → ∀ other ∈ levels, ¬Better side limit.price other.price

theorem Decided.limitOf {levels : List PriceLevel} {limit : DepthLimit}
    (decided : Decided side amount tickSize levels (.ok limit)) :
    LimitOf side amount tickSize levels limit := by
  obtain ⟨level, member, stops, earlier⟩ | ⟨undecided, worst, member, last, same⟩ := decided
  · obtain ⟨rfl, covered⟩ := decision_ok stops
    constructor
    · exact ⟨fun _ => ⟨level, member, covered⟩, fun _ => rfl⟩
    · exact ⟨level, member, rfl⟩
    · intro _
      constructor
      · exact covered
      · intro other listed otherCovered better
        exact decision_none (earlier other listed better) otherCovered
    · intro impossible
      cases impossible
  · cases same
    constructor
    · constructor
      · intro impossible
        cases impossible
      · rintro ⟨level, listed, covered⟩
        exact absurd covered (decision_none (undecided level listed))
    · exact ⟨worst, member, rfl⟩
    · intro impossible
      cases impossible
    · intro _
      exact last

theorem findDepthLimit_ok {sort : LevelSort side} {book : Orderbook} {limit : DepthLimit}
    (found : findDepthLimit sort book amount tickSize = .ok limit) :
    0 < amount ∧ bookLevels side book ≠ [] := by
  unfold findDepthLimit at found
  split at found
  · cases found
  · next positive =>
    split at found
    · cases found
    · next listed => exact ⟨not_le.mp positive, listed⟩

theorem findDepthLimit_limitOf {sort : LevelSort side} {book : Orderbook} {limit : DepthLimit}
    (valid : ∀ level ∈ bookLevels side book, ValidLevel level)
    (found : findDepthLimit sort book amount tickSize = .ok limit) :
    LimitOf side amount tickSize (bookLevels side book) limit := by
  obtain ⟨positive, listed⟩ := findDepthLimit_ok found
  have decided := findDepthLimit_decided tickSize sort book positive listed valid
  rw [found] at decided
  exact decided.limitOf

variable (amount tickSize) in
theorem findDepthLimit_perm (sort otherSort : LevelSort side) {book other : Orderbook}
    (perm : (bookLevels side book).Perm (bookLevels side other))
    (valid : ∀ level ∈ bookLevels side book, ValidLevel level) :
    findDepthLimit sort book amount tickSize = findDepthLimit otherSort other amount tickSize := by
  by_cases positive : 0 < amount
  · by_cases empty : bookLevels side book = []
    · have otherEmpty : bookLevels side other = [] := by
        rw [empty] at perm
        exact perm.symm.eq_nil
      unfold findDepthLimit
      rw [if_pos empty, if_pos otherEmpty]
    · have otherListed : bookLevels side other ≠ [] := by
        intro otherEmpty
        rw [otherEmpty] at perm
        exact empty perm.eq_nil
      have decided := findDepthLimit_decided tickSize sort book positive empty valid
      have otherDecided := findDepthLimit_decided tickSize otherSort other positive otherListed
        fun level member => valid level (perm.mem_iff.mpr member)
      exact (decided.perm perm).unique otherDecided
  · unfold findDepthLimit
    rw [if_pos (not_lt.mp positive), if_pos (not_lt.mp positive)]

/-- Levels with different prices are visited in one order. -/
theorem visitOrder_perm_unique (sort otherSort : LevelSort side) {levels other : List PriceLevel}
    (perm : levels.Perm other) (distinct : (levels.map PriceLevel.price).Nodup) :
    visitOrder sort levels = visitOrder otherSort other := by
  apply InOrder.unique (visitOrder_inOrder sort levels) (visitOrder_inOrder otherSort other)
  · exact (visitOrder_perm sort levels).trans (perm.trans (visitOrder_perm otherSort other).symm)
  · intro left member right otherMember same
    have leftListed := (visitOrder_perm sort levels).mem_iff.mp member
    have rightListed := (visitOrder_perm sort levels).mem_iff.mp otherMember
    exact List.inj_on_of_nodup_map distinct leftListed rightListed same

/-- The depth limit of valid levels does not depend on their listing: it is what the
levels decide. With different prices neither does the estimate. -/
theorem depthLimit_listing_independent (sort otherSort : LevelSort side) {book other : Orderbook}
    (perm : (bookLevels side book).Perm (bookLevels side other))
    (valid : ∀ level ∈ bookLevels side book, ValidLevel level) :
    findDepthLimit sort book amount tickSize = findDepthLimit otherSort other amount tickSize ∧
    (∀ limit, findDepthLimit sort book amount tickSize = .ok limit →
      LimitOf side amount tickSize (bookLevels side book) limit) ∧
    (((bookLevels side book).map PriceLevel.price).Nodup →
      estimateMarketDepth sort book amount tickSize = estimateMarketDepth otherSort other amount tickSize) := by
  have found := findDepthLimit_perm amount tickSize sort otherSort perm valid
  constructor
  · exact found
  constructor
  · intro limit
    exact findDepthLimit_limitOf valid
  · intro distinct
    have order := visitOrder_perm_unique sort otherSort perm distinct
    unfold estimateMarketDepth simulateFill visitBestFirst
    rw [found, order]

end Search

def cheapAsk : PriceLevel := ⟨1 / 5, 24999 / 1000000⟩

def dearAsk : PriceLevel := ⟨1 / 2, 9999 / 1000000⟩

theorem validAsks : ∀ level ∈ [cheapAsk, dearAsk], ValidLevel level := by
  intro level member
  obtain rfl | member := List.mem_cons.mp member
  · exact ⟨⟨200000, 24999⟩, by decide +kernel⟩
  · rw [List.mem_singleton.mp member]
    exact ⟨⟨500000, 9999⟩, by decide +kernel⟩

def askBook (asks : List PriceLevel) : Orderbook := { asks }

theorem depthLimit_listing_independent_asks :
    findDepthLimit (UnstableSort.byInsertion : LevelSort .buy) (askBook [cheapAsk, dearAsk]) (1 / 100) "0.1" =
      findDepthLimit (UnstableSort.byInsertion : LevelSort .buy) (askBook [dearAsk, cheapAsk]) (1 / 100) "0.1" := by
  have perm : (bookLevels .buy (askBook [cheapAsk, dearAsk])).Perm
      (bookLevels .buy (askBook [dearAsk, cheapAsk])) := .swap dearAsk cheapAsk []
  exact (depthLimit_listing_independent _ _ perm validAsks).1

end Polymarket.Orders
