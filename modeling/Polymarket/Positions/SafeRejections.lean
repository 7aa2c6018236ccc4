import Polymarket.Evm.WordText
import Polymarket.Positions.SafeRelayer

/-! Rejections of the relayer that another attempt may not meet: exactly those that the
patterns find are tried again. -/

set_option autoImplicit false

namespace Polymarket.Positions

open Settlement (holdsText)

/-! ## Digits -/

/-- The number that decimal digits spell. -/
def digitsNumber (digits : List Char) : Nat := radixValue 10 (digits.map Orders.digitValue)

theorem map_digitValue_lt {digits : List Char} (decimal : ∀ digit ∈ digits, digit.isDigit = true) :
    ∀ value ∈ digits.map Orders.digitValue, value < 10 := by
  intro value listed
  obtain ⟨digit, member, rfl⟩ := List.mem_map.mp listed
  exact Evm.digitValue_lt (decimal digit member)

theorem digitValue_inj {left right : Char} (decimalLeft : left.isDigit = true) (decimalRight : right.isDigit = true)
    (same : Orders.digitValue left = Orders.digitValue right) : left = right := by
  rw [← Evm.digitChar_digitValue decimalLeft, same, Evm.digitChar_digitValue decimalRight]

theorem digitsNumber_dropZeros {digits : List Char} (decimal : ∀ digit ∈ digits, digit.isDigit = true) :
    digitsNumber (digits.dropWhile (· == '0')) = digitsNumber digits := by
  induction digits with
  | nil => rfl
  | cons digit rest ih =>
      rw [List.dropWhile_cons]
      split
      · next zero =>
        rw [ih fun other member => decimal other (List.mem_cons_of_mem _ member), eq_of_beq zero, digitsNumber, digitsNumber,
          List.map_cons, radixValue_cons]
        change _ = 0 * _ + _
        rw [Nat.zero_mul, Nat.zero_add]
      · rfl

theorem pow_le_digitsNumber {digits : List Char} {first : Char} (decimal : first.isDigit = true) (nonzero : first ≠ '0') :
    10 ^ digits.length ≤ digitsNumber (first :: digits) := by
  have positive : 1 ≤ Orders.digitValue first := by
    apply Nat.one_le_iff_ne_zero.mpr
    intro zero
    exact nonzero (digitValue_inj decimal (by decide) zero)
  have scaled := Nat.mul_le_mul_right (10 ^ digits.length) positive
  rw [digitsNumber, List.map_cons, radixValue_cons, List.length_map]
  omega

theorem map_digitValue_lt_iff {left right : List Char} (width : left.length = right.length)
    (decimalLeft : ∀ digit ∈ left, digit.isDigit = true) (decimalRight : ∀ digit ∈ right, digit.isDigit = true) :
    left.map Orders.digitValue < right.map Orders.digitValue ↔ left < right := by
  induction left generalizing right with
  | nil =>
      rw [List.length_eq_zero_iff.mp width.symm]
      exact iff_of_false (List.not_lt_nil _) (List.not_lt_nil _)
  | cons first rest ih =>
      cases right with
      | nil => cases width
      | cons other others =>
          have tails := ih (Nat.succ.inj width) (fun digit member => decimalLeft digit (List.mem_cons_of_mem _ member))
            fun digit member => decimalRight digit (List.mem_cons_of_mem _ member)
          have decimalFirst := decimalLeft first List.mem_cons_self
          have decimalOther := decimalRight other List.mem_cons_self
          have low := (Orders.isDigit_iff first).mp decimalFirst
          have high := (Orders.isDigit_iff other).mp decimalOther
          rw [List.map_cons, List.map_cons, List.cons_lt_cons_iff, List.cons_lt_cons_iff, tails, Orders.char_lt_iff]
          have less : Orders.digitValue first < Orders.digitValue other ↔ first.toNat < other.toNat := by
            rw [Orders.digitValue, Orders.digitValue]
            simp only [Char.reduceToNat]
            omega
          have same : Orders.digitValue first = Orders.digitValue other ↔ first = other :=
            ⟨digitValue_inj decimalFirst decimalOther, fun equal => by rw [equal]⟩
          rw [less, same]

/-- Digit strings are compared as the numbers they spell. -/
theorem decimalLess_iff {left right : List Char} (decimalLeft : ∀ digit ∈ left, digit.isDigit = true)
    (decimalRight : ∀ digit ∈ right, digit.isDigit = true) :
    decimalLess left right = true ↔ digitsNumber left < digitsNumber right := by
  rw [← digitsNumber_dropZeros decimalLeft, ← digitsNumber_dropZeros decimalRight, decimalLess]
  have keptLeft : ∀ digit ∈ left.dropWhile (· == '0'), digit.isDigit = true :=
    fun digit member => decimalLeft digit ((List.dropWhile_sublist _).subset member)
  have keptRight : ∀ digit ∈ right.dropWhile (· == '0'), digit.isDigit = true :=
    fun digit member => decimalRight digit ((List.dropWhile_sublist _).subset member)
  have shorter {short long : List Char} (leading : ∀ first rest, long = first :: rest → first ≠ '0')
      (decimalShort : ∀ digit ∈ short, digit.isDigit = true) (decimalLong : ∀ digit ∈ long, digit.isDigit = true)
      (less : short.length < long.length) : digitsNumber short < digitsNumber long := by
    cases long with
    | nil => cases less
    | cons first rest =>
        have below := @radixValue_lt 10 _ (by decide) (map_digitValue_lt decimalShort)
        have above := @pow_le_digitsNumber rest first (decimalLong first List.mem_cons_self) (leading first rest rfl)
        rw [List.length_map] at below
        rw [List.length_cons] at less
        have grown : 10 ^ short.length ≤ 10 ^ rest.length := Nat.pow_le_pow_right (by decide) (by omega)
        exact Nat.lt_of_lt_of_le below (Nat.le_trans grown above)
  have leading (digits : List Char) : ∀ first rest, digits.dropWhile (· == '0') = first :: rest → first ≠ '0' := by
    intro first rest spelled zero
    have kept := List.head?_dropWhile_not (· == '0') digits
    rw [spelled, List.head?_cons, zero] at kept
    cases kept
  split
  · next different =>
    rw [decide_eq_true_iff]
    constructor
    · exact shorter (leading right) keptLeft keptRight
    · intro less
      by_contra notShorter
      have longer := shorter (leading left) keptRight keptLeft (by omega)
      omega
  · next width =>
    rw [decide_eq_true_iff, ← map_digitValue_lt_iff (not_not.mp width) keptLeft keptRight]
    symm
    exact radixValue_lt_iff (by decide) (by rw [List.length_map, List.length_map, not_not.mp width])
      (map_digitValue_lt keptLeft) (map_digitValue_lt keptRight)

/-! ## Transient rejections -/

def RelayerRequestError.lowered (error : RelayerRequestError) : List Char := error.body.toList.map Char.toLower

/-- Blanks that a pattern reads at once. -/
def Blanks (text : List Char) : Prop := text ≠ [] ∧ ∀ character ∈ text, isSpace character = true

/-- Digits that a pattern reads at once. -/
def Digits (text : List Char) : Prop := text ≠ [] ∧ ∀ character ∈ text, character.isDigit = true

/-- A text starts by saying that the nonce of a batch is not the one on chain. -/
inductive NonceMismatch (batch chain : List Char) : List Char → Prop where
  | intro {first second third rest : List Char} (blanks : Blanks first ∧ Blanks second ∧ Blanks third)
      (digits : Digits batch ∧ Digits chain) (ends : ∀ character, rest.head? = some character → character.isDigit = false) :
      NonceMismatch batch chain
        ("batch nonce".toList ++ first ++ batch ++ second ++ "does not match on-chain nonce".toList ++ third ++ chain ++ rest)

/-- A rejection that a later attempt may not meet: a rate limit, a wallet that still acts, or a
nonce lower than the one on chain where the body first tells of a mismatch. -/
inductive Transient (error : RelayerRequestError) : Prop where
  | rateLimited (status : error.status = 429)
  | busy {between : List Char} (status : error.status = 400) (oneLine : ∀ character ∈ between, endsLine character = false)
      (found : "wallet busy".toList ++ between ++ "active action".toList <:+: error.lowered)
  | inFlight (status : error.status = 400) (found : "wallet has in-flight action".toList <:+: error.lowered)
  | staleNonce {batch chain text : List Char} (status : error.status = 400) (found : text <:+ error.lowered)
      (mismatch : NonceMismatch batch chain text)
      (first : ∀ earlier, text <:+ earlier → earlier <:+ error.lowered → ∀ other onChain,
        NonceMismatch other onChain earlier → earlier = text)
      (behind : digitsNumber batch < digitsNumber chain)

/-! ## Patterns -/

section Runs

variable {front rest : List Char} {reads : Char → Bool}

theorem takeWhile_run (inside : ∀ character ∈ front, reads character = true)
    (ends : ∀ character, rest.head? = some character → reads character = false) :
    (front ++ rest).takeWhile reads = front ∧ (front ++ rest).dropWhile reads = rest := by
  rw [List.takeWhile_append_of_pos inside, List.dropWhile_append_of_pos inside]
  cases rest with
  | nil => simp
  | cons character others => simp [ends character rfl]

theorem dropWhile_ends (text : List Char) :
    ∀ character, (text.dropWhile reads).head? = some character → reads character = false := by
  intro character starts
  have stopped := List.head?_dropWhile_not reads text
  rw [starts] at stopped
  simpa using stopped

end Runs

theorem isDigit_of_isSpace {character : Char} (blank : isSpace character = true) : character.isDigit = false := by
  by_contra decimal
  have inside := (Orders.isDigit_iff character).mp (eq_true_of_ne_false decimal)
  rw [isSpace, Bool.or_eq_true, Bool.and_eq_true, decide_eq_true_iff, decide_eq_true_iff, decide_eq_true_iff] at blank
  obtain rfl | ⟨-, low⟩ := blank
  · exact absurd inside (by decide)
  · have low : character.toNat ≤ 13 := low
    omega

theorem Digits.starts {digits others : List Char} (decimal : Digits digits) :
    ∀ character, (digits ++ others).head? = some character → isSpace character = false := by
  intro character starts
  cases digits with
  | nil => exact absurd rfl decimal.1
  | cons digit rest =>
      cases starts
      by_contra blank
      have no := isDigit_of_isSpace (eq_true_of_ne_false blank)
      rw [decimal.2 character List.mem_cons_self] at no
      cases no

theorem Blanks.starts {blanks others : List Char} (blank : Blanks blanks) :
    ∀ character, (blanks ++ others).head? = some character → character.isDigit = false := by
  intro character starts
  cases blanks with
  | nil => exact absurd rfl blank.1
  | cons first rest =>
      cases starts
      exact isDigit_of_isSpace (blank.2 character List.mem_cons_self)

theorem holdsText_iff {text part : List Char} : holdsText text part = true ↔ part <:+: text := by
  rw [holdsText, List.any_eq_true, List.infix_iff_prefix_suffix]
  constructor
  · rintro ⟨tail, listed, starts⟩
    exact ⟨tail, List.isPrefixOf_iff_prefix.mp starts, (List.mem_tails _ _).mp listed⟩
  · rintro ⟨tail, starts, listed⟩
    exact ⟨tail, (List.mem_tails _ _).mpr listed, List.isPrefixOf_iff_prefix.mpr starts⟩

theorem readPart_eq_some {part text rest : List Char} : readPart part text = some rest ↔ text = part ++ rest := by
  unfold readPart
  constructor
  · intro read
    split at read
    · next starts =>
      cases read
      exact List.prefix_iff_eq_append.mp (List.isPrefixOf_iff_prefix.mp starts) |>.symm
    · cases read
  · rintro rfl
    rw [if_pos (List.isPrefixOf_iff_prefix.mpr (List.prefix_append part rest)), List.drop_left]

theorem readBlanks_eq_some {text rest : List Char} :
    readBlanks text = some rest ↔ ∃ blanks, Blanks blanks ∧ text = blanks ++ rest ∧
      ∀ character, rest.head? = some character → isSpace character = false := by
  unfold readBlanks
  constructor
  · intro read
    split at read
    · cases read
    · next some =>
      cases read
      refine ⟨text.takeWhile isSpace, ⟨fun none => some (by rw [none]; rfl), fun _ => List.mem_takeWhile_imp⟩,
        List.takeWhile_append_dropWhile.symm, dropWhile_ends text⟩
  · rintro ⟨blanks, ⟨some, blank⟩, rfl, ends⟩
    obtain ⟨taken, left⟩ := takeWhile_run blank ends
    rw [taken, left, if_neg]
    rwa [List.isEmpty_iff]

theorem readDigits_eq_some {text digits rest : List Char} :
    readDigits text = some (digits, rest) ↔ Digits digits ∧ text = digits ++ rest ∧
      ∀ character, rest.head? = some character → character.isDigit = false := by
  unfold readDigits
  constructor
  · intro read
    split at read
    · cases read
    · next some =>
      cases read
      exact ⟨⟨fun none => some (by rw [none]; rfl), fun _ => List.mem_takeWhile_imp⟩,
        List.takeWhile_append_dropWhile.symm, dropWhile_ends text⟩
  · rintro ⟨⟨some, decimal⟩, rfl, ends⟩
    obtain ⟨taken, left⟩ := takeWhile_run decimal ends
    rw [taken, left, if_neg]
    rwa [List.isEmpty_iff]

/-- The pattern reads a mismatch with all its blanks and digits. -/
theorem readNonceMismatch_eq_some {text batch chain : List Char} :
    readNonceMismatch text = some (batch, chain) ↔ NonceMismatch batch chain text := by
  constructor
  · intro read
    obtain ⟨behindName, nameRead, read⟩ := Option.bind_eq_some_iff.mp read
    obtain ⟨atBatch, firstRead, read⟩ := Option.bind_eq_some_iff.mp read
    obtain ⟨⟨batchDigits, behindBatch⟩, batchRead, read⟩ := Option.bind_eq_some_iff.mp read
    obtain ⟨atVerb, secondRead, read⟩ := Option.bind_eq_some_iff.mp read
    obtain ⟨behindVerb, verbRead, read⟩ := Option.bind_eq_some_iff.mp read
    obtain ⟨atChain, thirdRead, read⟩ := Option.bind_eq_some_iff.mp read
    obtain ⟨⟨chainDigits, rest⟩, chainRead, read⟩ := Option.bind_eq_some_iff.mp read
    cases read
    obtain ⟨first, firstBlank, rfl, -⟩ := readBlanks_eq_some.mp firstRead
    obtain ⟨second, secondBlank, rfl, -⟩ := readBlanks_eq_some.mp secondRead
    obtain ⟨third, thirdBlank, rfl, -⟩ := readBlanks_eq_some.mp thirdRead
    obtain ⟨batchDecimal, rfl, -⟩ := readDigits_eq_some.mp batchRead
    obtain ⟨chainDecimal, rfl, ends⟩ := readDigits_eq_some.mp chainRead
    have verb := readPart_eq_some.mp verbRead
    have name := readPart_eq_some.mp nameRead
    subst verb name
    have whole := NonceMismatch.intro ⟨firstBlank, secondBlank, thirdBlank⟩ ⟨batchDecimal, chainDecimal⟩ ends
    simpa only [List.append_assoc] using whole
  · intro mismatch
    cases mismatch with
    | @intro first second third rest blanks digits ends =>
        obtain ⟨firstBlank, secondBlank, thirdBlank⟩ := blanks
        obtain ⟨batchDecimal, chainDecimal⟩ := digits
        have verbStarts : ∀ character, ("does not match on-chain nonce".toList ++ (third ++ (chain ++ rest))).head? =
            some character → isSpace character = false := by
          intro character starts
          cases starts
          rfl
        simp only [List.append_assoc]
        rw [readNonceMismatch, readPart_eq_some.mpr rfl, Option.bind_eq_bind, Option.bind_some,
          readBlanks_eq_some.mpr ⟨first, firstBlank, rfl, batchDecimal.starts⟩, Option.bind_some,
          readDigits_eq_some.mpr ⟨batchDecimal, rfl, secondBlank.starts⟩]
        dsimp only [Option.bind_eq_bind, Option.bind_some]
        rw [readBlanks_eq_some.mpr ⟨second, secondBlank, rfl, verbStarts⟩, Option.bind_some,
          readPart_eq_some.mpr rfl, Option.bind_some,
          readBlanks_eq_some.mpr ⟨third, thirdBlank, rfl, chainDecimal.starts⟩, Option.bind_some,
          readDigits_eq_some.mpr ⟨chainDecimal, rfl, ends⟩]
        rfl

/-- A search finds the first place that fits. -/
theorem findSome?_tails_eq_some {α β : Type} {read : List α → Option β} {text : List α} {found : β} :
    text.tails.findSome? read = some found ↔ ∃ tail, tail <:+ text ∧ read tail = some found ∧
      ∀ earlier, tail <:+ earlier → earlier <:+ text → (read earlier).isSome → earlier = tail := by
  induction text with
  | nil =>
      rw [List.tails, List.findSome?_singleton]
      simp only [List.suffix_nil]
      constructor
      · intro first
        exact ⟨[], rfl, first, fun earlier _ none _ => none⟩
      · rintro ⟨tail, rfl, first, -⟩
        exact first
  | cons item rest ih =>
      rw [List.tails_cons, List.findSome?_cons]
      cases here : read (item :: rest) with
      | some value =>
          constructor
          · intro same
            cases same
            exact ⟨_, List.suffix_refl _, here, fun earlier longer inside _ => inside.eq_of_length_le longer.length_le⟩
          · rintro ⟨tail, inside, there, first⟩
            have whole := first (item :: rest) inside (List.suffix_refl _) (by rw [here]; rfl)
            rw [← whole, here] at there
            exact there
      | none =>
          dsimp only
          rw [ih]
          constructor
          · rintro ⟨tail, inside, there, first⟩
            refine ⟨tail, inside.trans (List.suffix_cons _ _), there, ?_⟩
            intro earlier longer within matched
            obtain rfl | later := List.suffix_cons_iff.mp within
            · rw [here] at matched
              cases matched
            · exact first earlier longer later matched
          · rintro ⟨tail, inside, there, first⟩
            obtain rfl | later := List.suffix_cons_iff.mp inside
            · cases here.symm.trans there
            · exact ⟨tail, later, there, fun earlier longer within => first earlier longer (within.trans (List.suffix_cons _ _))⟩

/-- Behind some occurrence of a part, something holds of the rest. -/
theorem any_tails_behind {part text : List Char} {holds : List Char → Bool} :
    (text.tails.any fun tail => part.isPrefixOf tail && holds (tail.drop part.length)) = true ↔
      ∃ front rest, text = front ++ (part ++ rest) ∧ holds rest = true := by
  simp only [List.any_eq_true, Bool.and_eq_true, List.isPrefixOf_iff_prefix, List.mem_tails]
  constructor
  · rintro ⟨_, ⟨front, rfl⟩, ⟨rest, rfl⟩, found⟩
    rw [List.drop_left] at found
    exact ⟨front, rest, rfl, found⟩
  · rintro ⟨front, rest, rfl, found⟩
    refine ⟨part ++ rest, List.suffix_append .., List.prefix_append .., ?_⟩
    rw [List.drop_left]
    exact found

theorem matchesBusy_iff {body : List Char} : matchesBusy body = true ↔
    ∃ between, (∀ character ∈ between, endsLine character = false) ∧
      "wallet busy".toList ++ between ++ "active action".toList <:+: body := by
  have somewhere : matchesBusy body = true ↔ ∃ front rest, body = front ++ ("wallet busy".toList ++ rest) ∧
      holdsText (rest.takeWhile fun character => !endsLine character) "active action".toList = true := by
    unfold matchesBusy
    rw [← String.length_toList]
    exact @any_tails_behind "wallet busy".toList body fun rest =>
      holdsText (rest.takeWhile fun character => !endsLine character) "active action".toList
  rw [somewhere]
  constructor
  · rintro ⟨front, rest, rfl, found⟩
    obtain ⟨between, behind, line⟩ := holdsText_iff.mp found
    have parts := @List.takeWhile_append_dropWhile _ (fun character => !endsLine character) rest
    rw [← line] at parts
    refine ⟨between, ?_, front, behind ++ rest.dropWhile fun character => !endsLine character, ?_⟩
    · intro character member
      have inside : character ∈ rest.takeWhile fun character => !endsLine character := by
        rw [← line]
        exact List.mem_append_left _ (List.mem_append_left _ member)
      exact (Bool.not_eq_true' _).mp (@List.mem_takeWhile_imp _ (fun character => !endsLine character) _ _ inside)
    · calc front ++ ("wallet busy".toList ++ between ++ "active action".toList) ++
            (behind ++ rest.dropWhile fun character => !endsLine character)
          = front ++ ("wallet busy".toList ++ (between ++ "active action".toList ++ behind ++
              rest.dropWhile fun character => !endsLine character)) := by simp only [List.append_assoc]
        _ = front ++ ("wallet busy".toList ++ rest) := by rw [parts]
  · rintro ⟨between, oneLine, front, back, rfl⟩
    refine ⟨front, between ++ "active action".toList ++ back, by simp only [List.append_assoc], ?_⟩
    have line : ∀ character ∈ between ++ "active action".toList, (!endsLine character) = true := by
      intro character member
      obtain inside | last := List.mem_append.mp member
      · rw [oneLine character inside]
        rfl
      · have plain : "active action".toList.all (fun character => !endsLine character) = true := by decide +kernel
        exact List.all_eq_true.mp plain character last
    rw [List.takeWhile_append_of_pos line, holdsText_iff]
    exact ⟨between, back.takeWhile (fun character => !endsLine character), rfl⟩

theorem NonceMismatch.decimalLess_iff {batch chain text : List Char} (mismatch : NonceMismatch batch chain text) :
    decimalLess batch chain = true ↔ digitsNumber batch < digitsNumber chain := by
  cases mismatch with
  | intro blanks digits ends => exact Positions.decimalLess_iff digits.1.2 digits.2.2

/-- The pattern finds the first mismatch that a text tells of. -/
theorem findNonceMismatch_eq_some {text batch chain : List Char} :
    text.tails.findSome? readNonceMismatch = some (batch, chain) ↔ ∃ tail, tail <:+ text ∧ NonceMismatch batch chain tail ∧
      ∀ earlier, tail <:+ earlier → earlier <:+ text → ∀ other onChain, NonceMismatch other onChain earlier → earlier = tail := by
  simp only [findSome?_tails_eq_some, readNonceMismatch_eq_some, Option.isSome_iff_exists, Prod.exists, forall_exists_index]

/-- Exactly a transient rejection is tried again. -/
theorem isRetryableSubmitError_iff {error : RelayerRequestError} :
    isRetryableSubmitError error = true ↔ Transient error := by
  unfold isRetryableSubmitError
  split
  · next limited => exact iff_of_true rfl (.rateLimited limited)
  · next notLimited =>
    split
    · next accepted =>
      constructor
      · nofun
      · rintro (limited | ⟨rejected, -, -⟩ | ⟨rejected, -⟩ | ⟨rejected, -, -, -, -⟩)
        · exact absurd limited notLimited
        · exact absurd rejected accepted
        · exact absurd rejected accepted
        · exact absurd rejected accepted
    · next status =>
      have rejected : error.status = 400 := not_not.mp status
      dsimp only
      rw [show error.body.toList.map Char.toLower = error.lowered from rfl]
      split
      · next acting =>
        apply iff_of_true rfl
        obtain busy | inFlight := Bool.or_eq_true_iff.mp acting
        · obtain ⟨between, oneLine, held⟩ := matchesBusy_iff.mp busy
          exact .busy rejected oneLine held
        · exact .inFlight rejected (holdsText_iff.mp inFlight)
      · next idle =>
        constructor
        · intro retryable
          split at retryable
          · next batch chain found =>
            obtain ⟨text, inside, mismatch, first⟩ := findNonceMismatch_eq_some.mp found
            exact .staleNonce rejected inside mismatch first (mismatch.decimalLess_iff.mp retryable)
          · cases retryable
        · intro transient
          cases transient with
          | rateLimited limited => exact absurd limited notLimited
          | busy _ oneLine found =>
              exact absurd (Bool.or_eq_true_iff.mpr (.inl (matchesBusy_iff.mpr ⟨_, oneLine, found⟩))) idle
          | inFlight _ found => exact absurd (Bool.or_eq_true_iff.mpr (.inr (holdsText_iff.mpr found))) idle
          | staleNonce _ inside mismatch first behind =>
              rw [findNonceMismatch_eq_some.mpr ⟨_, inside, mismatch, first⟩]
              exact mismatch.decimalLess_iff.mpr behind

end Polymarket.Positions
