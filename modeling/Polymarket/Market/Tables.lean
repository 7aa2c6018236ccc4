import Polymarket.Market.BookProperties
import Polymarket.Market.Runtime

/-! The subscription tables, the cached books and the market legs agree after any
sequence of calls. A leg is stored only through the condition that its token is
mapped to, and that mapping stays as long as the token is subscribed. -/

set_option autoImplicit false

namespace Polymarket.Market

open WebSocket

/-! ## Legs -/

/-- The token and the leg of a side; `true` is the yes side. -/
def MarketState.token (market : MarketState) (yes : Bool) : String :=
  if yes then market.tokenYes else market.tokenNo

def MarketState.leg (market : MarketState) (yes : Bool) : MarketLeg :=
  if yes then market.yes else market.no

def MarketLeg.Zero (leg : MarketLeg) : Prop := leg.bestAsk = 0 ∧ leg.bestAskSize = 0

def MarketLeg.Shows (leg : MarketLeg) (book : Orderbook) : Prop :=
  leg.bestAsk = book.top.ask ∧ leg.bestAskSize = book.top.askSize

theorem token_setLeg (market : MarketState) (token : String) (leg : MarketLeg) (yes : Bool) :
    (market.setLeg token leg).token yes = market.token yes := by
  unfold MarketState.setLeg
  split
  · rfl
  · split
    · rfl
    · rfl

/-- Exactly the leg of the token is replaced. -/
theorem leg_setLeg {market : MarketState} (distinct : market.tokenYes ≠ market.tokenNo) (token : String)
    (leg : MarketLeg) (yes : Bool) :
    (market.setLeg token leg).leg yes = if market.token yes = token then leg else market.leg yes := by
  unfold MarketState.setLeg MarketState.leg MarketState.token
  by_cases first : token = market.tokenYes
  · subst first
    cases yes with
    | true => simp
    | false => simp [Ne.symm distinct]
  · by_cases second : token = market.tokenNo
    · subst second
      cases yes with
      | true => simp [Ne.symm first, first]
      | false => simp [first]
    · cases yes with
      | true => simp [first, second, Ne.symm first]
      | false => simp [first, second, Ne.symm second]

@[simp] theorem token_resetMarketLeg (market : MarketState) (token : String) (yes : Bool) :
    (resetMarketLeg market token).token yes = market.token yes :=
  token_setLeg market token {} yes

theorem leg_resetMarketLeg {market : MarketState} (distinct : market.tokenYes ≠ market.tokenNo)
    (token : String) (yes : Bool) :
    (resetMarketLeg market token).leg yes = if market.token yes = token then {} else market.leg yes :=
  leg_setLeg distinct token {} yes

@[simp] theorem token_storeMarketLeg (market : MarketState) (token : String) (top : StreamBookTop)
    (receivedNs : UInt64) (yes : Bool) :
    (storeMarketLeg market token top receivedNs).token yes = market.token yes :=
  token_setLeg market token _ yes

theorem leg_storeMarketLeg {market : MarketState} (distinct : market.tokenYes ≠ market.tokenNo)
    (token : String) (top : StreamBookTop) (receivedNs : UInt64) (yes : Bool) :
    (storeMarketLeg market token top receivedNs).leg yes =
      if market.token yes = token then ⟨top.ask, top.askSize, receivedNs⟩ else market.leg yes :=
  leg_setLeg distinct token _ yes

/-- The two tokens differ, whatever side names them. -/
theorem distinct_tokens {market other : MarketState} (same : ∀ yes, other.token yes = market.token yes)
    (distinct : market.tokenYes ≠ market.tokenNo) : other.tokenYes ≠ other.tokenNo := by
  have first : other.tokenYes = market.tokenYes := same true
  have second : other.tokenNo = market.tokenNo := same false
  rw [first, second]
  exact distinct

@[simp] theorem token_resetMarketLegs (market : MarketState) (yes : Bool) :
    (resetMarketLegs market).token yes = market.token yes := by
  simp [resetMarketLegs]

theorem leg_resetMarketLegs {market : MarketState} (distinct : market.tokenYes ≠ market.tokenNo)
    (yes : Bool) : (resetMarketLegs market).leg yes = {} := by
  have between := distinct_tokens (token_resetMarketLeg market market.tokenYes) distinct
  unfold resetMarketLegs
  rw [leg_resetMarketLeg between, leg_resetMarketLeg distinct, token_resetMarketLeg]
  cases yes with
  | true => simp [MarketState.token]
  | false => simp [MarketState.token]

/-! ## The invariant -/

/-- Zero, or what the cached book of the token shows, stored through this condition. -/
def LegStands (runtime : OrderbookRuntime) (conditionId token : String) (leg : MarketLeg) : Prop :=
  leg.Zero ∨ (runtime.tokenToCondition token = some conditionId ∧
    ∃ book, runtime.books.books token = some book ∧ leg.Shows book)

/-- A leg only looks at the mapping and the book of its token. -/
theorem LegStands.congr {runtime other : OrderbookRuntime} {conditionId token : String} {leg : MarketLeg}
    (stands : LegStands runtime conditionId token leg)
    (mapping : runtime.tokenToCondition token = some conditionId →
      other.tokenToCondition token = some conditionId ∧
        other.books.books token = runtime.books.books token) : LegStands other conditionId token leg := by
  obtain zero | ⟨maps, book, held, shows⟩ := stands
  · exact .inl zero
  · obtain ⟨mapsOther, same⟩ := mapping maps
    exact .inr ⟨mapsOther, book, same.trans held, shows⟩

/-- The tables agree, except for the book and the leg of a token that is being
unsubscribed. -/
structure TablesAgree (leaving : Option (String × String)) (runtime : OrderbookRuntime) : Prop where
  unique : runtime.subscribedTokens.Nodup
  named : "" ∉ runtime.subscribedTokens
  mapped : ∀ token, token ∈ runtime.subscribedTokens ↔ (runtime.tokenToCondition token).isSome
  listed : ∀ token conditionId, runtime.tokenToCondition token = some conditionId →
    (runtime.markets conditionId).isSome
  ready : ∀ token, (runtime.books.books token).isSome ↔ runtime.books.snapshotReady token = true
  cached : ∀ token, runtime.books.snapshotReady token = true →
    token ∈ runtime.subscribedTokens ∨ ∃ conditionId, leaving = some (token, conditionId)
  distinct : ∀ conditionId market, runtime.markets conditionId = some market →
    market.tokenYes ≠ market.tokenNo
  legs : ∀ conditionId market, runtime.markets conditionId = some market → ∀ yes,
    LegStands runtime conditionId (market.token yes) (market.leg yes) ∨
      leaving = some (market.token yes, conditionId)
  inactive : runtime.streamActive = false → runtime.books = .empty
  owned : runtime.ownerActive = false → runtime.streamActive = false

variable {runtime : OrderbookRuntime} {leaving : Option (String × String)}

/-! ## Invalidation -/

/-- The invariant does not look at generations, counters and the client. -/
theorem TablesAgree.congr (agree : TablesAgree leaving runtime) {other : OrderbookRuntime}
    (tokens : other.subscribedTokens = runtime.subscribedTokens)
    (mapping : other.tokenToCondition = runtime.tokenToCondition)
    (markets : other.markets = runtime.markets) (books : other.books = runtime.books)
    (active : other.streamActive = runtime.streamActive) (owner : other.ownerActive = runtime.ownerActive) :
    TablesAgree leaving other := by
  refine ⟨?_, ?_, ?_, ?_, ?_, ?_, ?_, ?_, ?_, ?_⟩
  · rw [tokens]
    exact agree.unique
  · rw [tokens]
    exact agree.named
  · rw [tokens, mapping]
    exact agree.mapped
  · rw [mapping, markets]
    exact agree.listed
  · rw [books]
    exact agree.ready
  · rw [books, tokens]
    exact agree.cached
  · rw [markets]
    exact agree.distinct
  · unfold LegStands
    rw [markets, mapping, books]
    exact agree.legs
  · rw [active, books]
    exact agree.inactive
  · rw [owner, active]
    exact agree.owned

/-- Clearing the caches under any flags that keep an inactive owner's stream inactive. -/
theorem TablesAgree.invalidateCached (agree : TablesAgree leaving runtime) {other : OrderbookRuntime}
    (tokens : other.subscribedTokens = runtime.subscribedTokens)
    (mapping : other.tokenToCondition = runtime.tokenToCondition)
    (markets : other.markets = runtime.markets)
    (owned : other.ownerActive = false → other.streamActive = false) :
    TablesAgree leaving other.invalidateCachedState where
  unique := by
    change other.subscribedTokens.Nodup
    rw [tokens]
    exact agree.unique
  named := by
    change "" ∉ other.subscribedTokens
    rw [tokens]
    exact agree.named
  mapped := by
    change ∀ token, token ∈ other.subscribedTokens ↔ (other.tokenToCondition token).isSome
    rw [tokens, mapping]
    exact agree.mapped
  listed := by
    intro token conditionId maps
    have isListed := agree.listed token conditionId (mapping ▸ maps)
    simpa [OrderbookRuntime.invalidateCachedState, markets] using isListed
  ready := by
    intro token
    simp [OrderbookRuntime.invalidateCachedState, invalidateStreamBooks, StreamBooks.empty]
  cached := by
    intro token isReady
    cases isReady
  distinct := by
    intro conditionId market found
    obtain ⟨old, held, rfl⟩ := Option.map_eq_some_iff.mp found
    exact distinct_tokens (token_resetMarketLegs old) (agree.distinct conditionId old (markets ▸ held))
  legs := by
    intro conditionId market found yes
    obtain ⟨old, held, rfl⟩ := Option.map_eq_some_iff.mp found
    rw [leg_resetMarketLegs (agree.distinct conditionId old (markets ▸ held))]
    exact .inl (.inl ⟨rfl, rfl⟩)
  inactive := fun _ => rfl
  owned := owned

theorem TablesAgree.invalidateStream (agree : TablesAgree leaving runtime) :
    TablesAgree leaving runtime.invalidateStreamState := by
  unfold OrderbookRuntime.invalidateStreamState
  split
  · exact agree
  · exact agree.invalidateCached rfl rfl rfl agree.owned

theorem TablesAgree.deactivate (agree : TablesAgree leaving runtime) :
    TablesAgree leaving runtime.deactivateStream :=
  agree.invalidateCached rfl rfl rfl fun _ => rfl

theorem TablesAgree.markGap (agree : TablesAgree leaving runtime) :
    TablesAgree leaving runtime.markStreamGap := by
  apply TablesAgree.invalidateStream
  exact agree.congr rfl rfl rfl rfl rfl rfl

theorem TablesAgree.resnapshot (agree : TablesAgree leaving runtime) :
    TablesAgree leaving runtime.requestResnapshot := by
  unfold OrderbookRuntime.requestResnapshot
  split
  · exact agree
  · apply TablesAgree.markGap
    exact agree.congr rfl rfl rfl rfl rfl rfl

theorem TablesAgree.sent (agree : TablesAgree leaving runtime) (connection : Connection)
    (tokens : List String) (subscribe : Bool) :
    TablesAgree leaving (runtime.sendUpdate connection tokens subscribe) := by
  unfold OrderbookRuntime.sendUpdate
  split
  · exact agree
  · split
    · exact agree
    · split
      · exact agree
      · exact agree.resnapshot

/-! ## Subscriptions -/

/-- A market is listed with both legs at zero. -/
theorem TablesAgree.list (agree : TablesAgree none runtime) {market : MarketState}
    (distinct : market.tokenYes ≠ market.tokenNo) (conditionId : String) :
    TablesAgree none { runtime with
      markets := Function.update runtime.markets conditionId
        (some (resetMarketLegs (liveMarketState market))) } where
  unique := agree.unique
  named := agree.named
  mapped := agree.mapped
  listed := by
    intro token mappedTo maps
    by_cases same : mappedTo = conditionId
    · subst same
      simp
    · simp only [Function.update_of_ne same]
      exact agree.listed token mappedTo maps
  ready := agree.ready
  cached := agree.cached
  distinct := by
    intro other found held
    by_cases same : other = conditionId
    · subst same
      simp only [Function.update_self, Option.some.injEq] at held
      rw [← held]
      exact distinct_tokens (token_resetMarketLegs (liveMarketState market)) distinct
    · simp only [Function.update_of_ne same] at held
      exact agree.distinct other found held
  legs := by
    intro other found held yes
    by_cases same : other = conditionId
    · subst same
      simp only [Function.update_self, Option.some.injEq] at held
      have distinctLive : (liveMarketState market).tokenYes ≠ (liveMarketState market).tokenNo := distinct
      rw [← held, leg_resetMarketLegs distinctLive]
      exact .inl (.inl ⟨rfl, rfl⟩)
    · simp only [Function.update_of_ne same] at held
      exact agree.legs other found held yes
  inactive := agree.inactive
  owned := agree.owned

theorem TablesAgree.add (agree : TablesAgree none runtime) {conditionId : String}
    (isListed : (runtime.markets conditionId).isSome) (token : String) (added : List String) :
    TablesAgree none (OrderbookRuntime.addToken conditionId token (runtime, added)).1 ∧
      (OrderbookRuntime.addToken conditionId token (runtime, added)).1.markets = runtime.markets := by
  unfold OrderbookRuntime.addToken
  dsimp only
  split
  · exact ⟨agree, rfl⟩
  · next addable =>
    push Not at addable
    obtain ⟨nonempty, absent⟩ := addable
    have fresh : runtime.tokenToCondition token = none := by
      have unmapped := mt (agree.mapped token).mpr absent
      simpa using unmapped
    refine ⟨⟨?_, ?_, ?_, ?_, agree.ready, ?_, agree.distinct, ?_, agree.inactive, agree.owned⟩, rfl⟩
    · change (runtime.subscribedTokens ++ [token]).Nodup
      rw [List.nodup_append]
      refine ⟨agree.unique, by simp, fun other held last member => ?_⟩
      intro same
      rw [List.mem_singleton] at member
      exact absent (member ▸ same ▸ held)
    · intro member
      obtain earlier | last := List.mem_append.mp member
      · exact agree.named earlier
      · exact nonempty (List.mem_singleton.mp last).symm
    · intro other
      simp only [List.mem_append, List.mem_singleton]
      by_cases same : other = token
      · subst same
        simp
      · simp only [same, or_false, Function.update_of_ne same]
        exact agree.mapped other
    · intro other target maps
      by_cases same : other = token
      · subst same
        simp only [Function.update_self, Option.some.injEq] at maps
        exact maps ▸ isListed
      · simp only [Function.update_of_ne same] at maps
        exact agree.listed other target maps
    · intro other isReady
      exact .inl (List.mem_append_left _ ((agree.cached other isReady).resolve_right nofun))
    · intro other market found yes
      have stands := (agree.legs other market found yes).resolve_right nofun
      refine .inl (stands.congr fun maps => ⟨?_, rfl⟩)
      have different : market.token yes ≠ token := by
        intro same
        rw [same, fresh] at maps
        cases maps
      exact (Function.update_of_ne different ..).trans maps

/-- A subscribed token is taken out; its book and its leg are still to go. -/
theorem TablesAgree.remove (agree : TablesAgree none runtime) {token conditionId : String}
    (maps : runtime.tokenToCondition token = some conditionId) :
    TablesAgree (some (token, conditionId)) (runtime.removeToken token) where
  unique := agree.unique.erase token
  named := fun member => agree.named (List.mem_of_mem_erase member)
  mapped := by
    intro other
    change other ∈ runtime.subscribedTokens.erase token ↔
      (Function.update runtime.tokenToCondition token none other).isSome
    rw [agree.unique.mem_erase_iff]
    by_cases same : other = token
    · subst same
      simp
    · simp only [ne_eq, same, not_false_eq_true, true_and, Function.update_of_ne same]
      exact agree.mapped other
  listed := by
    intro other target mapsOther
    change Function.update runtime.tokenToCondition token none other = some target at mapsOther
    by_cases same : other = token
    · subst same
      simp at mapsOther
    · rw [Function.update_of_ne same] at mapsOther
      exact agree.listed other target mapsOther
  ready := agree.ready
  cached := by
    intro other isReady
    by_cases same : other = token
    · subst same
      exact .inr ⟨conditionId, rfl⟩
    · have held := (agree.cached other isReady).resolve_right nofun
      exact .inl (agree.unique.mem_erase_iff.mpr ⟨same, held⟩)
  distinct := agree.distinct
  legs := by
    intro other market found yes
    obtain zero | ⟨mapsLeg, shows⟩ := (agree.legs other market found yes).resolve_right nofun
    · exact .inl (.inl zero)
    · by_cases same : market.token yes = token
      · rw [same] at mapsLeg ⊢
        rw [maps, Option.some.injEq] at mapsLeg
        exact .inr (by rw [mapsLeg])
      · refine .inl (.inr ⟨?_, shows⟩)
        exact (Function.update_of_ne same ..).trans mapsLeg
  inactive := agree.inactive
  owned := agree.owned

theorem TablesAgree.removed {token conditionId : String}
    (agree : TablesAgree (some (token, conditionId)) runtime)
    (unmapped : runtime.tokenToCondition token = none) :
    TablesAgree none ((runtime.eraseBook token).resetLeg conditionId token) := by
  have isErased : ∀ other, other ≠ token →
      (runtime.eraseBook token).books.books other = runtime.books.books other :=
    fun other different => Function.update_of_ne different ..
  have erased : TablesAgree (some (token, conditionId)) (runtime.eraseBook token) := by
    refine ⟨agree.unique, agree.named, agree.mapped, agree.listed, fun other => ?_, fun other isReady => ?_,
      agree.distinct, fun other market found yes => ?_, fun inactive => ?_, agree.owned⟩
    · by_cases same : other = token
      · subst same
        simp [OrderbookRuntime.eraseBook]
      · simp only [OrderbookRuntime.eraseBook, Function.update_of_ne same]
        exact agree.ready other
    · by_cases same : other = token
      · subst same
        simp [OrderbookRuntime.eraseBook] at isReady
      · simp only [OrderbookRuntime.eraseBook, Function.update_of_ne same] at isReady
        exact agree.cached other isReady
    · obtain stands | isLeaving := agree.legs other market found yes
      · refine .inl (stands.congr fun maps => ⟨maps, isErased _ ?_⟩)
        intro same
        rw [same, unmapped] at maps
        cases maps
      · exact .inr isLeaving
    · have empty := agree.inactive inactive
      have nothing : Function.update (fun _ : String => (none : Option Orderbook)) token none = fun _ => none :=
        Function.update_eq_self ..
      have unready : Function.update (fun _ : String => false) token false = fun _ => false :=
        Function.update_eq_self ..
      simp only [OrderbookRuntime.eraseBook, empty, StreamBooks.empty, nothing, unready]
  have unsubscribed : ∀ other, (runtime.eraseBook token).books.snapshotReady other = true →
      other ∈ runtime.subscribedTokens := by
    intro other isReady
    obtain held | ⟨target, same⟩ := erased.cached other isReady
    · exact held
    · cases same
      simp [OrderbookRuntime.eraseBook] at isReady
  unfold OrderbookRuntime.resetLeg
  split
  · next unlisted =>
    refine ⟨erased.unique, erased.named, erased.mapped, erased.listed, erased.ready,
      fun other isReady => .inl (unsubscribed other isReady), erased.distinct,
      fun other market found yes => .inl ?_, erased.inactive, erased.owned⟩
    refine (erased.legs other market found yes).resolve_right fun isLeaving => ?_
    cases isLeaving
    rw [found] at unlisted
    cases unlisted
  · next market held =>
    have distinct := erased.distinct conditionId market held
    refine ⟨erased.unique, erased.named, erased.mapped, fun other target maps => ?_, erased.ready,
      fun other isReady => .inl (unsubscribed other isReady), fun other found isFound => ?_,
      fun other found isFound yes => .inl ?_, erased.inactive, erased.owned⟩
    · by_cases same : target = conditionId
      · subst same
        simp
      · simp only [Function.update_of_ne same]
        exact erased.listed other target maps
    · by_cases same : other = conditionId
      · subst same
        simp only [Function.update_self, Option.some.injEq] at isFound
        rw [← isFound]
        exact distinct_tokens (token_resetMarketLeg market token) distinct
      · simp only [Function.update_of_ne same] at isFound
        exact erased.distinct other found isFound
    · by_cases same : other = conditionId
      · subst same
        simp only [Function.update_self, Option.some.injEq] at isFound
        rw [← isFound, leg_resetMarketLeg distinct, token_resetMarketLeg]
        split
        · exact .inl ⟨rfl, rfl⟩
        · next different =>
          have stands := (erased.legs other market held yes).resolve_right fun isLeaving =>
            different (Prod.mk.inj (Option.some.inj isLeaving)).1.symm
          exact stands.congr fun maps => ⟨maps, rfl⟩
      · simp only [Function.update_of_ne same] at isFound
        have stands := (erased.legs other found isFound yes).resolve_right fun isLeaving =>
          same (Prod.mk.inj (Option.some.inj isLeaving)).2.symm
        exact stands.congr fun maps => ⟨maps, rfl⟩

/-! ## Calls -/

/-- The tables agree and the client tracks the subscribed tokens. -/
structure Consistent (runtime : OrderbookRuntime) : Prop where
  agree : TablesAgree none runtime
  tracked : runtime.websocket.subscriptions = trackedMessage runtime.subscribedTokens

/-- What a send leaves alone even if it fails. -/
structure KeepsTables (before after : OrderbookRuntime) : Prop where
  tokens : after.subscribedTokens = before.subscribedTokens
  mapping : after.tokenToCondition = before.tokenToCondition
  tracked : after.websocket.subscriptions = before.websocket.subscriptions
  owner : after.ownerActive = before.ownerActive
  active : after.streamActive = before.streamActive

theorem invalidateStreamState_keeps (runtime : OrderbookRuntime) :
    KeepsTables runtime runtime.invalidateStreamState := by
  unfold OrderbookRuntime.invalidateStreamState
  split
  · exact ⟨rfl, rfl, rfl, rfl, rfl⟩
  · exact ⟨rfl, rfl, rfl, rfl, rfl⟩

theorem markStreamGap_keeps (runtime : OrderbookRuntime) : KeepsTables runtime runtime.markStreamGap := by
  unfold OrderbookRuntime.markStreamGap
  have keeps := invalidateStreamState_keeps { runtime with
    websocket := { runtime.websocket with
      streamGeneration := runtime.websocket.streamGeneration + 1 } }
  exact ⟨keeps.tokens, keeps.mapping, keeps.tracked, keeps.owner, keeps.active⟩

theorem requestResnapshot_keeps (runtime : OrderbookRuntime) :
    KeepsTables runtime runtime.requestResnapshot := by
  unfold OrderbookRuntime.requestResnapshot
  split
  · exact ⟨rfl, rfl, rfl, rfl, rfl⟩
  · have keeps := markStreamGap_keeps { runtime with
      websocket := { runtime.websocket with resnapshotPending := true } }
    exact ⟨keeps.tokens, keeps.mapping, keeps.tracked, keeps.owner, keeps.active⟩

theorem sendUpdate_keeps (runtime : OrderbookRuntime) (connection : Connection) (tokens : List String)
    (subscribe : Bool) : KeepsTables runtime (runtime.sendUpdate connection tokens subscribe) := by
  unfold OrderbookRuntime.sendUpdate
  split
  · exact ⟨rfl, rfl, rfl, rfl, rfl⟩
  · split
    · exact ⟨rfl, rfl, rfl, rfl, rfl⟩
    · split
      · exact ⟨rfl, rfl, rfl, rfl, rfl⟩
      · exact requestResnapshot_keeps runtime

theorem Consistent.keeps {after : OrderbookRuntime} (consistent : Consistent runtime)
    (agree : TablesAgree none after) (keeps : KeepsTables runtime after) : Consistent after :=
  ⟨agree, by rw [keeps.tracked, keeps.tokens, consistent.tracked]⟩

theorem Consistent.subscribe (consistent : Consistent runtime) (connection : Connection)
    {market : MarketState} (distinct : market.tokenYes ≠ market.tokenNo) :
    Consistent (runtime.subscribe connection market) := by
  unfold OrderbookRuntime.subscribe
  split
  · exact consistent
  · have isListed : (Function.update runtime.markets market.conditionId
        (some (resetMarketLegs (liveMarketState market))) market.conditionId).isSome := by simp
    obtain ⟨agreeYes, sameYes⟩ := (consistent.agree.list distinct market.conditionId).add isListed
      market.tokenYes []
    obtain ⟨agreeNo, _⟩ := agreeYes.add (by rw [sameYes]; exact isListed) market.tokenNo
      (OrderbookRuntime.addToken market.conditionId market.tokenYes ({ runtime with
        markets := Function.update runtime.markets market.conditionId
          (some (resetMarketLegs (liveMarketState market))) }, [])).2
    dsimp only
    refine Consistent.keeps ⟨?_, rfl⟩ (TablesAgree.sent ?_ connection _ true)
      (sendUpdate_keeps _ connection _ true)
    · exact agreeNo.congr rfl rfl rfl rfl rfl rfl
    · exact agreeNo.congr rfl rfl rfl rfl rfl rfl

theorem eraseBook_keeps (runtime : OrderbookRuntime) (token : String) :
    KeepsTables runtime (runtime.eraseBook token) := ⟨rfl, rfl, rfl, rfl, rfl⟩

theorem resetLeg_keeps (runtime : OrderbookRuntime) (conditionId token : String) :
    KeepsTables runtime (runtime.resetLeg conditionId token) := by
  unfold OrderbookRuntime.resetLeg
  split
  · exact ⟨rfl, rfl, rfl, rfl, rfl⟩
  · exact ⟨rfl, rfl, rfl, rfl, rfl⟩

theorem KeepsTables.trans {first second third : OrderbookRuntime} (earlier : KeepsTables first second)
    (later : KeepsTables second third) : KeepsTables first third :=
  ⟨later.tokens.trans earlier.tokens, later.mapping.trans earlier.mapping,
    later.tracked.trans earlier.tracked, later.owner.trans earlier.owner,
    later.active.trans earlier.active⟩

/-- The book of a token that is not subscribed is not cached. -/
theorem TablesAgree.eraseUncached (agree : TablesAgree none runtime) {token : String}
    (absent : token ∉ runtime.subscribedTokens) : runtime.eraseBook token = runtime := by
  have unready : runtime.books.snapshotReady token = false := by
    by_contra isReady
    exact absent ((agree.cached token (by simpa using isReady)).resolve_right nofun)
  have unknown : runtime.books.books token = none := by
    have missing := mt (agree.ready token).mp (by simp [unready])
    simpa using missing
  have books : Function.update runtime.books.books token none = runtime.books.books := by
    rw [← unknown]
    exact Function.update_eq_self ..
  have ready : Function.update runtime.books.snapshotReady token false = runtime.books.snapshotReady := by
    rw [← unready]
    exact Function.update_eq_self ..
  simp only [OrderbookRuntime.eraseBook, books, ready]

theorem Consistent.unsubscribe (consistent : Consistent runtime) (connection : Connection)
    (token : String) : Consistent (runtime.unsubscribe connection token) := by
  have agree := consistent.agree
  unfold OrderbookRuntime.unsubscribe
  split
  · exact consistent
  · split
    · next held =>
      obtain ⟨conditionId, maps⟩ := Option.isSome_iff_exists.mp ((agree.mapped token).mp held)
      simp only [maps, Option.getD_some]
      have sent := sendUpdate_keeps (runtime.removeToken token) connection [token] false
      have unmapped : ((runtime.removeToken token).sendUpdate connection [token] false).tokenToCondition
          token = none := by
        rw [sent.mapping]
        exact Function.update_self ..
      have keeps := sent.trans ((eraseBook_keeps _ token).trans (resetLeg_keeps _ conditionId token))
      refine ⟨((agree.remove maps).sent connection [token] false).removed unmapped, ?_⟩
      rw [keeps.tracked, keeps.tokens]
      rfl
    · next absent =>
      have replaced : TablesAgree none
          (runtime.replaceSubscriptions (trackedMessage runtime.subscribedTokens)) :=
        agree.congr rfl rfl rfl rfl rfl rfl
      rw [replaced.eraseUncached absent]
      exact ⟨replaced, rfl⟩

theorem Consistent.unsubscribeAll (consistent : Consistent runtime) (connection : Connection) :
    Consistent (runtime.unsubscribeAll connection) := by
  have agree := consistent.agree
  unfold OrderbookRuntime.unsubscribeAll
  split
  · exact consistent
  · have keeps := sendUpdate_keeps (({ runtime with
        subscribedTokens := [], tokenToCondition := fun _ => none } :
          OrderbookRuntime).replaceSubscriptions []) connection runtime.subscribedTokens false
    have tokens := keeps.tokens
    have mapping := keeps.mapping
    have owned : (({ runtime with subscribedTokens := [], tokenToCondition := fun _ => none } :
        OrderbookRuntime).replaceSubscriptions [] |>.sendUpdate connection runtime.subscribedTokens
          false).ownerActive = false → _ := fun closed =>
      keeps.active.trans (agree.owned (keeps.owner.symm.trans closed))
    refine ⟨⟨?_, ?_, fun token => ?_, fun token conditionId maps => ?_, fun token => ?_,
      fun token isReady => ?_, nofun, nofun, fun _ => rfl, owned⟩, ?_⟩
    · dsimp only
      rw [tokens]
      exact List.nodup_nil
    · dsimp only
      rw [tokens]
      exact List.not_mem_nil
    · dsimp only
      rw [tokens, mapping]
      simp [OrderbookRuntime.replaceSubscriptions]
    · dsimp only at maps
      rw [mapping] at maps
      cases maps
    · simp [invalidateStreamBooks, StreamBooks.empty]
    · cases isReady
    · dsimp only
      rw [keeps.tracked, tokens]
      rfl

/-! ## Updates -/

/-- An event of a subscribed token is skipped, or it leaves its book cached and
reports the top of that book. -/
theorem applyStreamBookEvent_cases {event : MarketBookEvent} (formed : event.WellFormed)
    (books : StreamBooks) (receivedNs : UInt64) :
    (event.snapshot = false ∧ books.snapshotReady event.assetId = false ∧
        applyStreamBookEvent books event receivedNs = (books, .ok none)) ∨
      ((event.snapshot = true ∨ books.snapshotReady event.assetId = true) ∧
        ∃ book, applyStreamBookEvent books event receivedNs =
          (⟨Function.update books.books event.assetId (some book),
            Function.update books.snapshotReady event.assetId true⟩, .ok (some book.top))) := by
  unfold applyStreamBookEvent
  split
  · next skipped => exact .inl ⟨skipped.1, skipped.2, rfl⟩
  · next taken =>
    have ready : event.snapshot = true ∨ books.snapshotReady event.assetId = true := by
      cases snapshot : event.snapshot with
      | true => exact .inl rfl
      | false => exact .inr (by simpa [snapshot] using taken)
    obtain ⟨applied, _⟩ := applyMarketBookEvent_wellFormed formed
      ((books.books event.assetId).getD {}) receivedNs
    refine .inr ⟨ready, (applyMarketBookEvent ((books.books event.assetId).getD {}) event receivedNs).1, ?_⟩
    simp only [applied]
    have isReady : (if event.snapshot then Function.update books.snapshotReady event.assetId true
        else books.snapshotReady) = Function.update books.snapshotReady event.assetId true := by
      cases snapshot : event.snapshot with
      | true => rfl
      | false =>
          have already : books.snapshotReady event.assetId = true := ready.resolve_left (by simp [snapshot])
          have same : Function.update books.snapshotReady event.assetId true = books.snapshotReady := by
            rw [← already]
            exact Function.update_eq_self event.assetId books.snapshotReady
          rw [same]
          rfl
    rw [isReady]

/-- What `handle_orderbook_update` does with a parsed event: nothing, or it caches
the book of its token and stores the top in the market of the token's condition. -/
theorem handleOrderbookUpdate_cases (agree : TablesAgree none runtime) {event : MarketBookEvent}
    (formed : event.WellFormed) (receivedNs : UInt64) (generation websocketGeneration : Nat) :
    runtime.handleOrderbookUpdate event receivedNs generation websocketGeneration = (runtime, .ok ()) ∨
      (runtime.streamActive = true ∧
        (event.snapshot = true ∨ runtime.books.snapshotReady event.assetId = true) ∧
        ∃ conditionId market book, runtime.tokenToCondition event.assetId = some conditionId ∧
          runtime.markets conditionId = some market ∧
          runtime.handleOrderbookUpdate event receivedNs generation websocketGeneration =
            ({ runtime with
              books := ⟨Function.update runtime.books.books event.assetId (some book),
                Function.update runtime.books.snapshotReady event.assetId true⟩
              markets := Function.update runtime.markets conditionId
                (some (storeMarketLeg market event.assetId book.top receivedNs))
              totalUpdates := runtime.totalUpdates + 1 }, .ok ())) := by
  unfold OrderbookRuntime.handleOrderbookUpdate
  split
  · exact .inl rfl
  · next current =>
    have active : runtime.streamActive = true := by
      simp only [OrderbookRuntime.streamIsCurrent, Bool.not_eq_true', Bool.not_eq_false,
        Bool.and_eq_true] at current
      exact current.1.1.2
    split
    · exact .inl rfl
    · next conditionId maps =>
      obtain ⟨market, listed⟩ := Option.isSome_iff_exists.mp (agree.listed _ _ maps)
      obtain ⟨_, _, skipped⟩ | ⟨taken, book, applied⟩ :=
        applyStreamBookEvent_cases formed runtime.books receivedNs
      · rw [skipped]
        exact .inl rfl
      · simp only [applied, listed]
        exact .inr ⟨active, taken, conditionId, market, book, maps, listed, rfl⟩

theorem TablesAgree.update (agree : TablesAgree none runtime) {token conditionId : String}
    {market : MarketState} (active : runtime.streamActive = true)
    (maps : runtime.tokenToCondition token = some conditionId)
    (isListed : runtime.markets conditionId = some market) (book : Orderbook) (receivedNs : UInt64) :
    TablesAgree none { runtime with
      books := ⟨Function.update runtime.books.books token (some book),
        Function.update runtime.books.snapshotReady token true⟩
      markets := Function.update runtime.markets conditionId
        (some (storeMarketLeg market token book.top receivedNs))
      totalUpdates := runtime.totalUpdates + 1 } := by
  have distinct := agree.distinct conditionId market isListed
  refine ⟨agree.unique, agree.named, agree.mapped, fun other target mapsOther => ?_, fun other => ?_,
    fun other isReady => .inl ?_, fun other found isFound => ?_, fun other found isFound yes => .inl ?_,
    fun inactive => ?_, agree.owned⟩
  · by_cases same : target = conditionId
    · subst same
      simp
    · simp only [Function.update_of_ne same]
      exact agree.listed other target mapsOther
  · by_cases same : other = token
    · subst same
      simp
    · simp only [Function.update_of_ne same]
      exact agree.ready other
  · by_cases same : other = token
    · subst same
      exact (agree.mapped other).mpr (by simp [maps])
    · simp only [Function.update_of_ne same] at isReady
      exact (agree.cached other isReady).resolve_right nofun
  · by_cases same : other = conditionId
    · subst same
      simp only [Function.update_self, Option.some.injEq] at isFound
      rw [← isFound]
      exact distinct_tokens (token_storeMarketLeg market token book.top receivedNs) distinct
    · simp only [Function.update_of_ne same] at isFound
      exact agree.distinct other found isFound
  · by_cases same : other = conditionId
    · subst same
      simp only [Function.update_self, Option.some.injEq] at isFound
      rw [← isFound, leg_storeMarketLeg distinct, token_storeMarketLeg]
      split
      · next isToken =>
        rw [isToken]
        exact .inr ⟨maps, book, Function.update_self .., rfl, rfl⟩
      · next different =>
        have stands := (agree.legs other market isListed yes).resolve_right nofun
        exact stands.congr fun mapsLeg => ⟨mapsLeg, Function.update_of_ne different ..⟩
    · simp only [Function.update_of_ne same] at isFound
      have stands := (agree.legs other found isFound yes).resolve_right nofun
      -- A leg of the same token elsewhere is zero: the token is mapped to this condition.
      refine stands.congr fun mapsLeg => ⟨mapsLeg, Function.update_of_ne (fun isToken => same ?_) ..⟩
      rw [isToken, maps, Option.some.injEq] at mapsLeg
      exact mapsLeg.symm
  · rw [active] at inactive
    cases inactive

/-- A parsed event never throws. -/
theorem handleOrderbookUpdate_returns (runtime : OrderbookRuntime) {event : MarketBookEvent}
    (formed : event.WellFormed) (receivedNs : UInt64) (generation websocketGeneration : Nat) :
    runtime.handleOrderbookUpdate event receivedNs generation websocketGeneration =
      ((runtime.handleOrderbookUpdate event receivedNs generation websocketGeneration).1, .ok ()) := by
  apply Prod.ext
  · rfl
  · unfold OrderbookRuntime.handleOrderbookUpdate
    split
    · rfl
    · split
      · rfl
      · obtain ⟨_, _, skipped⟩ | ⟨_, book, applied⟩ :=
          applyStreamBookEvent_cases formed runtime.books receivedNs
        · rw [skipped]
        · rw [applied]
          dsimp only
          split
          · rfl
          · rfl

/-- The events of an accepted message are all passed on. -/
theorem handleUpdates_passes (runtime : OrderbookRuntime) {events : List MarketBookEvent}
    (formed : ∀ event ∈ events, event.WellFormed) (receivedNs : UInt64)
    (generation websocketGeneration : Nat) :
    (runtime.handleUpdates receivedNs generation websocketGeneration events).2 = (events, .ok ()) := by
  induction events generalizing runtime with
  | nil => rfl
  | cons event rest ih =>
      obtain ⟨formedEvent, formedRest⟩ := List.forall_mem_cons.mp formed
      simp only [OrderbookRuntime.handleUpdates]
      rw [handleOrderbookUpdate_returns runtime formedEvent]
      dsimp only
      rw [ih _ formedRest]

theorem Consistent.handleOrderbookUpdate (consistent : Consistent runtime) {event : MarketBookEvent}
    (formed : event.WellFormed) (receivedNs : UInt64) (generation websocketGeneration : Nat) :
    Consistent (runtime.handleOrderbookUpdate event receivedNs generation websocketGeneration).1 := by
  obtain same | ⟨active, _, conditionId, market, book, maps, listed, updated⟩ :=
    handleOrderbookUpdate_cases consistent.agree formed receivedNs generation websocketGeneration
  · rw [same]
    exact consistent
  · rw [updated]
    exact ⟨consistent.agree.update active maps listed book receivedNs, consistent.tracked⟩

theorem Consistent.handleUpdates {events : List MarketBookEvent} (consistent : Consistent runtime)
    (formed : ∀ event ∈ events, event.WellFormed) (receivedNs : UInt64)
    (generation websocketGeneration : Nat) :
    Consistent (runtime.handleUpdates receivedNs generation websocketGeneration events).1 := by
  induction events generalizing runtime with
  | nil => exact consistent
  | cons event rest ih =>
      obtain ⟨formedEvent, formedRest⟩ := List.forall_mem_cons.mp formed
      simp only [OrderbookRuntime.handleUpdates]
      rw [handleOrderbookUpdate_returns runtime formedEvent]
      exact ih (consistent.handleOrderbookUpdate formedEvent receivedNs generation websocketGeneration)
        formedRest

theorem Consistent.setTickSize (consistent : Consistent runtime) {tick : MarketTickSizeChange}
    {changed : OrderbookRuntime} (set : runtime.setTickSize tick = some changed) : Consistent changed := by
  have agree := consistent.agree
  obtain ⟨conditionId, maps, set⟩ := Option.bind_eq_some_iff.mp set
  obtain ⟨market, held, set⟩ := Option.bind_eq_some_iff.mp set
  cases set
  refine ⟨⟨agree.unique, agree.named, agree.mapped, fun other target mapsOther => ?_, agree.ready,
    agree.cached, fun other found isFound => ?_, fun other found isFound yes => ?_, agree.inactive,
    agree.owned⟩, consistent.tracked⟩
  · by_cases same : target = conditionId
    · subst same
      simp
    · simp only [Function.update_of_ne same]
      exact agree.listed other target mapsOther
  · by_cases same : other = conditionId
    · subst same
      simp only [Function.update_self, Option.some.injEq] at isFound
      rw [← isFound]
      exact agree.distinct other market held
    · simp only [Function.update_of_ne same] at isFound
      exact agree.distinct other found isFound
  · by_cases same : other = conditionId
    · subst same
      simp only [Function.update_self, Option.some.injEq] at isFound
      rw [← isFound]
      exact agree.legs other market held yes
    · simp only [Function.update_of_ne same] at isFound
      exact agree.legs other found isFound yes

theorem Consistent.requestResnapshot (consistent : Consistent runtime) :
    Consistent runtime.requestResnapshot :=
  consistent.keeps consistent.agree.resnapshot (requestResnapshot_keeps runtime)

/-- The events of an accepted book message are all passed on. -/
theorem routeMessage_updates (runtime : OrderbookRuntime) {parse : String → Except CppError Json}
    {message : String} (routed : OrderbookRuntime.occursIn "\"tick_size_change\"" message = false)
    {events : List MarketBookEvent} (read : (parse message >>= parseMarketBookEvents) = .ok events)
    (websocketGeneration : Nat) (receivedNs : UInt64) :
    runtime.routeMessage parse message websocketGeneration receivedNs =
      ({ runtime := (runtime.handleUpdates receivedNs runtime.streamGeneration websocketGeneration events).1,
         updates := events }, .ok ()) := by
  obtain ⟨parsed, _, parsedEvents⟩ := bind_ok read
  have passed := handleUpdates_passes runtime (parseMarketBookEvents_wellFormed parsedEvents) receivedNs
    runtime.streamGeneration websocketGeneration
  simp only [OrderbookRuntime.routeMessage, routed, Bool.false_eq_true, ↓reduceIte, read, passed]

theorem Consistent.routeMessage (consistent : Consistent runtime) (parse : String → Except CppError Json)
    (message : String) (websocketGeneration : Nat) (receivedNs : UInt64) :
    Consistent (runtime.routeMessage parse message websocketGeneration receivedNs).1.runtime := by
  cases routed : OrderbookRuntime.occursIn "\"tick_size_change\"" message with
  | true =>
      simp only [OrderbookRuntime.routeMessage, routed, ↓reduceIte]
      split
      · exact consistent
      · exact consistent
      · split
        · exact consistent
        · next set => exact consistent.setTickSize set
  | false =>
      cases read : (parse message >>= parseMarketBookEvents) with
      | error error =>
          simp only [OrderbookRuntime.routeMessage, routed, Bool.false_eq_true, ↓reduceIte, read]
          exact consistent
      | ok events =>
          rw [routeMessage_updates runtime routed read]
          obtain ⟨parsed, _, parsedEvents⟩ := bind_ok read
          exact consistent.handleUpdates (parseMarketBookEvents_wellFormed parsedEvents) receivedNs
            runtime.streamGeneration websocketGeneration

theorem Consistent.handleMessage (consistent : Consistent runtime) (parse : String → Except CppError Json)
    (message : String) (websocketGeneration : Nat) (receivedNs : UInt64) :
    Consistent (runtime.handleMessage parse message websocketGeneration receivedNs).runtime := by
  have routed := consistent.routeMessage parse message websocketGeneration receivedNs
  unfold OrderbookRuntime.handleMessage
  split
  · exact consistent
  · dsimp only
    split
    · exact routed
    · split
      · exact routed
      · exact routed.requestResnapshot

end Polymarket.Market
