import Polymarket.DistinctSequence
import Polymarket.Market.WallClock
import Polymarket.StdString

/-! The slugs of hourly markets: names of New York wall-clock hours, each listed once. -/

set_option autoImplicit false

namespace Polymarket.Market

open Calendar (CivilDate)

def months : List String :=
  ["january", "february", "march", "april", "may", "june", "july", "august", "september", "october", "november",
    "december"]

/-- The clock of `format_new_york_hour_slug`. -/
def clockText (hour : ℤ) : String :=
  if hour = 0 then "12am"
  else if hour = 12 then "12pm"
  else if hour < 12 then toString hour ++ "am"
  else toString (hour - 12) ++ "pm"

def formatNewYorkHourSlug (assetName : String) (unixSeconds : UInt64) : String :=
  let wall := gmtimeR (unixSeconds.toInt64.toInt + newYorkUtcOffset unixSeconds)
  assetName ++ "-up-or-down-" ++ months.getD wall.tmMon.toNat "" ++ "-" ++ toString wall.tmMday ++ "-" ++
    clockText wall.tmHour ++ "-et"

/-- The loop of `generate_new_york_hour_slugs`; it fails when its rounds run out. -/
def hourSlugs (assetName : String) (now : UInt64) (count : ℕ) : ℕ → ℤ → List String → Option (List String)
  | 0, _, _ => none
  | rounds + 1, offset, slugs =>
      if slugs.length < count then
        let timestamp := now.toInt64.toInt + offset * 3600
        if timestamp < 0 then hourSlugs assetName now count rounds (offset + 1) slugs
        else
          let slug := formatNewYorkHourSlug assetName (UInt64.ofInt timestamp)
          hourSlugs assetName now count rounds (offset + 1) (if slug ∈ slugs then slugs else slugs ++ [slug])
      else some slugs

def generateNewYorkHourSlugs (rounds : ℕ) (assetName : String) (now : UInt64) (count : ℤ) : Option (List String) :=
  if count ≤ 0 then some [] else hourSlugs assetName now count.toNat rounds (-1) []

/-! ## Wall-clock hours -/

/-- An hour that a clock on the wall shows, without its year. -/
@[ext] structure WallHour where
  month : ℕ
  day : ℕ
  hour : ℕ
  month_mem : 1 ≤ month ∧ month ≤ 12
  hour_lt : hour < 24

namespace WallHour

/-- The hour on a 12-hour clock. -/
def clock (wall : WallHour) : String :=
  toString ((wall.hour + 11) % 12 + 1) ++ (if wall.hour < 12 then "am" else "pm")

def slug (assetName : String) (wall : WallHour) : String :=
  assetName ++ "-up-or-down-" ++ months.getD (wall.month - 1) "" ++ "-" ++ toString wall.day ++ "-" ++ wall.clock ++ "-et"

theorem toList_toString (number : ℕ) : (toString number).toList = Nat.toDigits 10 number := by
  rw [Nat.toString_eq_repr, Nat.toList_repr]

theorem toString_injective {number other : ℕ} (same : (toString number).toList = (toString other).toList) : number = other := by
  rw [toList_toString, toList_toString] at same
  rw [← Nat.ofDigitChars_ten_toDigits (n := number), same, Nat.ofDigitChars_ten_toDigits]

theorem dash_not_mem_toString (number : ℕ) : '-' ∉ (toString number).toList := by
  intro dash
  rw [toList_toString] at dash
  exact absurd (Nat.isDigit_of_mem_toDigits (by decide) (by decide) dash) (by decide)

theorem dash_not_mem_month {month : ℕ} (early : month < 12) : '-' ∉ (months.getD month "").toList := by
  have table : ∀ month < 12, '-' ∉ (months.getD month "").toList := by decide
  exact table month early

theorem month_injective {month other : ℕ} (early : month < 12) (otherEarly : other < 12)
    (same : (months.getD month "").toList = (months.getD other "").toList) : month = other := by
  have table : ∀ month < 12, ∀ other < 12, (months.getD month "").toList = (months.getD other "").toList → month = other := by
    decide
  exact table month early other otherEarly same

theorem clock_injective {wall other : WallHour} (same : wall.clock.toList = other.clock.toList) :
    wall.hour = other.hour := by
  have bound := wall.hour_lt
  have otherBound := other.hour_lt
  have halves (hour : ℕ) : ((if hour < 12 then "am" else "pm" : String).toList).length = 2 := by
    split
    · rfl
    · rfl
  unfold clock at same
  rw [String.toList_append, String.toList_append] at same
  obtain ⟨numbers, half⟩ := List.append_inj' same (by rw [halves, halves])
  have hours := toString_injective numbers
  have sides : wall.hour < 12 ↔ other.hour < 12 := by
    by_cases early : wall.hour < 12
    · by_cases otherEarly : other.hour < 12
      · exact iff_of_true early otherEarly
      · rw [if_pos early, if_neg otherEarly] at half
        exact absurd half (by decide)
    · by_cases otherEarly : other.hour < 12
      · rw [if_neg early, if_pos otherEarly] at half
        exact absurd half (by decide)
      · exact iff_of_false early otherEarly
  omega

/-- A slug names one wall-clock hour. -/
theorem slug_injective {assetName : String} {wall other : WallHour} (same : wall.slug assetName = other.slug assetName) :
    wall = other := by
  have chars := congrArg String.toList same
  have dash : "-".toList = ['-'] := rfl
  simp only [slug, String.toList_append, List.append_assoc, dash, List.cons_append, List.nil_append] at chars
  have behind := List.append_cancel_left (List.append_cancel_left chars)
  have early := wall.month_mem
  have otherEarly := other.month_mem
  obtain ⟨monthNames, behindMonth⟩ :=
    separated_injective (dash_not_mem_month (by omega)) (dash_not_mem_month (by omega)) behind
  obtain ⟨days, clocks⟩ := separated_injective (dash_not_mem_toString _) (dash_not_mem_toString _) behindMonth
  have month := month_injective (by omega) (by omega) monthNames
  have hour := clock_injective (List.append_cancel_right clocks)
  apply WallHour.ext
  · omega
  · exact toString_injective days
  · exact hour

end WallHour

/-! ## The clock on the wall -/

def localTime (seconds : ℤ) : ℤ := seconds + if DaylightSaving seconds then -4 * 3600 else -5 * 3600

def wallHour (seconds : ℤ) : WallHour where
  month := (civilDate (localTime seconds / 86400)).month
  day := (civilDate (localTime seconds / 86400)).day
  hour := (localTime seconds % 86400 / 3600).toNat
  month_mem := (civilDate (localTime seconds / 86400)).month_mem
  hour_lt := by omega

theorem clockText_eq (wall : WallHour) : clockText wall.hour = wall.clock := by
  have table : ∀ hour < 24, (clockText (hour : ℕ)).toList =
      (toString ((hour + 11) % 12 + 1) ++ (if hour < 12 then "am" else "pm")).toList := by decide
  exact String.toList_inj.mp (table wall.hour wall.hour_lt)

theorem formatNewYorkHourSlug_eq {seconds : UInt64} (small : seconds.toNat < 2 ^ 40) (assetName : String) :
    formatNewYorkHourSlug assetName seconds = (wallHour seconds.toNat).slug assetName := by
  have wall : seconds.toInt64.toInt + newYorkUtcOffset seconds = localTime seconds.toNat := by
    rw [newYorkUtcOffset_eq small, toInt_toInt64 (by omega)]
    rfl
  have month : ((gmtimeR (localTime seconds.toNat)).tmMon).toNat = (wallHour seconds.toNat).month - 1 := by
    dsimp only [gmtimeR, wallHour]
    omega
  have hour : (gmtimeR (localTime seconds.toNat)).tmHour = (wallHour seconds.toNat).hour := by
    dsimp only [gmtimeR, wallHour]
    omega
  have day : toString (gmtimeR (localTime seconds.toNat)).tmMday = toString (wallHour seconds.toNat).day := rfl
  unfold formatNewYorkHourSlug WallHour.slug
  dsimp only
  rw [wall, month, hour, day, clockText_eq]

/-- The clock goes back to the hour it has just shown. -/
def RepeatsHour (seconds : ℤ) : Prop :=
  instant (endSunday (utcYear seconds)) 6 ≤ seconds ∧ seconds < instant (endSunday (utcYear seconds)) 7

instance decidableRepeatsHour (seconds : ℤ) : Decidable (RepeatsHour seconds) := inferInstanceAs (Decidable (_ ∧ _))

theorem repeatsHour_iff (seconds : ℤ) :
    RepeatsHour seconds ↔ ¬DaylightSaving seconds ∧ DaylightSaving (seconds - 3600) := by
  constructor
  · rintro ⟨begun, going⟩
    have span := utcYear_span seconds
    have sundays := sundays_span (utcYear seconds)
    unfold instant at begun going
    have year : utcYear (seconds - 3600) = utcYear seconds := utcYear_eq (by omega) (by omega)
    unfold DaylightSaving instant
    rw [year]
    omega
  · rintro ⟨standard, begun, going⟩
    have span := utcYear_span (seconds - 3600)
    have sundays := sundays_span (utcYear (seconds - 3600))
    unfold instant at begun going
    have year : utcYear seconds = utcYear (seconds - 3600) := utcYear_eq (by omega) (by omega)
    unfold DaylightSaving instant at standard
    unfold RepeatsHour instant
    rw [year] at standard ⊢
    omega

/-- Whole hours apart, the local time is the same only in two successive hours. -/
theorem localTime_eq_iff {earlier : ℤ} {hours : ℕ} (later : 0 < hours) :
    localTime earlier = localTime (earlier + 3600 * hours) ↔ hours = 1 ∧ RepeatsHour (earlier + 3600 * hours) := by
  unfold localTime
  constructor
  · intro same
    have next : hours = 1 := by
      split at same
      · split at same
        · omega
        · omega
      · split at same
        · omega
        · omega
    subst next
    refine ⟨rfl, (repeatsHour_iff _).mpr ?_⟩
    have back : earlier + 3600 * (1 : ℕ) - 3600 = earlier := by omega
    rw [back]
    split at same
    · next saving =>
      split at same
      · omega
      · next standard => exact ⟨standard, saving⟩
    · split at same
      · omega
      · omega
  · rintro ⟨rfl, repeated⟩
    obtain ⟨standard, saving⟩ := (repeatsHour_iff _).mp repeated
    have back : earlier + 3600 * (1 : ℕ) - 3600 = earlier := by omega
    rw [back] at saving
    rw [if_neg standard, if_pos saving]
    omega

/-- From one year to a later one at least 365 days go by. -/
theorem year_length {year later : ℤ} (before : year < later) :
    365 * year + year / 4 - year / 100 + year / 400 + 365 ≤ 365 * later + later / 4 - later / 100 + later / 400 := by
  omega

/-- Within a year a date and an hour determine the seconds, up to the minutes. -/
theorem eq_of_date {earlier later : ℤ} (ordered : earlier ≤ later) (near : later - earlier < 364 * 86400)
    (aligned : (later - earlier) % 3600 = 0)
    (month : (civilDate (earlier / 86400)).month = (civilDate (later / 86400)).month)
    (day : (civilDate (earlier / 86400)).day = (civilDate (later / 86400)).day)
    (hour : earlier % 86400 / 3600 = later % 86400 / 3600) : earlier = later := by
  have number := dayNumber_civilDate (earlier / 86400)
  have laterNumber := dayNumber_civilDate (later / 86400)
  generalize civilDate (earlier / 86400) = date at month day number
  generalize civilDate (later / 86400) = laterDate at month day laterNumber
  have days : earlier / 86400 = later / 86400 := by
    unfold dayNumber at number laterNumber
    rw [month, day] at number
    rcases lt_trichotomy (marchYear date) (marchYear laterDate) with earlier_ | same | later_
    · have := year_length earlier_
      omega
    · rw [same] at number
      omega
    · have := year_length later_
      omega
  omega

/-! ## The listed hours -/

section Hours

variable (assetName : String) (now : UInt64)

/-- The successive hours, from one hour before now on. -/
def hourAt (index : ℕ) : ℤ := now.toNat + ((index : ℤ) - 1) * 3600

/-- Only an hour that repeats the one before it is left out. -/
def Listed (index : ℕ) : Prop := index = 0 ∨ ¬RepeatsHour (hourAt now index)

instance decidableListed (index : ℕ) : Decidable (Listed now index) := inferInstanceAs (Decidable (_ ∨ _))

/-- What the loop looks at. -/
def slugAt (index : ℕ) : String := formatNewYorkHourSlug assetName (UInt64.ofInt (hourAt now index))

variable {now}

/-- A repeated hour shows what the hour before it has shown, which was none. -/
theorem repeated_hour {index : ℕ} (repeated : RepeatsHour (hourAt now (index + 1))) :
    wallHour (hourAt now index) = wallHour (hourAt now (index + 1)) ∧ Listed now index := by
  have next : hourAt now (index + 1) = hourAt now index + 3600 * (1 : ℕ) := by
    unfold hourAt
    push_cast
    ring
  have same := (@localTime_eq_iff (hourAt now index) 1 Nat.one_pos).mpr ⟨rfl, next ▸ repeated⟩
  rw [← next] at same
  constructor
  · unfold wallHour
    simp only [same]
  · right
    intro again
    have saving := ((repeatsHour_iff _).mp repeated).2
    rw [next, Nat.cast_one, mul_one, Int.add_sub_cancel] at saving
    exact ((repeatsHour_iff _).mp again).1 saving

variable (hourAgo : 3600 ≤ now.toNat) (soon : now.toNat < 2 ^ 38)

include hourAgo soon

theorem slugAt_eq {index : ℕ} (near : index ≤ 8002) : slugAt assetName now index = (wallHour (hourAt now index)).slug assetName := by
  have range : 0 ≤ hourAt now index ∧ hourAt now index < 2 ^ 39 := by
    unfold hourAt
    omega
  have exact_ := toNat_ofInt range.1 (by omega)
  rw [slugAt, formatNewYorkHourSlug_eq (by omega), exact_]

theorem slugAt_eq_iff {index later : ℕ} (before : index < later) (near : later ≤ 8002) :
    slugAt assetName now index = slugAt assetName now later ↔ index + 1 = later ∧ RepeatsHour (hourAt now later) := by
  obtain ⟨hours, rfl⟩ := Nat.exists_eq_add_of_lt before
  have apart : hourAt now (index + hours + 1) = hourAt now index + 3600 * (hours + 1 : ℕ) := by
    unfold hourAt
    push_cast
    ring
  have clocks := @localTime_eq_iff (hourAt now index) (hours + 1) (Nat.succ_pos hours)
  rw [← apart] at clocks
  rw [slugAt_eq assetName hourAgo soon (by omega), slugAt_eq assetName hourAgo soon near]
  constructor
  · intro same
    have wall := WallHour.slug_injective same
    have hour := congrArg WallHour.hour wall
    dsimp only [wallHour] at hour
    have span : 0 ≤ localTime (hourAt now (index + hours + 1)) - localTime (hourAt now index) ∧
        localTime (hourAt now (index + hours + 1)) - localTime (hourAt now index) < 364 * 86400 ∧
        (localTime (hourAt now (index + hours + 1)) - localTime (hourAt now index)) % 3600 = 0 := by
      rw [apart]
      unfold localTime
      split
      · split
        · omega
        · omega
      · split
        · omega
        · omega
    have times := eq_of_date (by omega) span.2.1 span.2.2 (congrArg WallHour.month wall) (congrArg WallHour.day wall) (by omega)
    obtain ⟨one, repeated⟩ := clocks.mp times
    exact ⟨by omega, repeated⟩
  · rintro ⟨next, repeated⟩
    rw [← next] at repeated ⊢
    rw [(repeated_hour repeated).1]

theorem isFirst_slugAt_iff {index : ℕ} (near : index ≤ 8002) : IsFirst (slugAt assetName now) index ↔ Listed now index := by
  constructor
  · intro first
    rcases Nat.eq_zero_or_pos index with zero | positive
    · exact .inl zero
    · right
      intro repeated
      have before : index - 1 < index := by omega
      exact first _ before ((slugAt_eq_iff assetName hourAgo soon before near).mpr ⟨by omega, repeated⟩)
  · intro listed earlier before same
    obtain ⟨-, repeated⟩ := (slugAt_eq_iff assetName hourAgo soon before near).mp same
    rcases listed with rfl | fresh
    · cases before
    · exact fresh repeated

theorem distinctBefore_slugAt {index : ℕ} (near : index ≤ 8002) :
    distinctBefore (slugAt assetName now) index =
      ((List.range index).filter (Listed now)).map fun place => (wallHour (hourAt now place)).slug assetName := by
  have first : (List.range index).filter (IsFirst (slugAt assetName now)) = (List.range index).filter (Listed now) := by
    apply List.filter_congr
    intro place member
    rw [List.mem_range] at member
    rw [decide_eq_decide]
    exact isFirst_slugAt_iff assetName hourAgo soon (by omega)
  rw [distinctBefore, first]
  apply List.map_congr_left
  intro place member
  have inside := List.mem_range.mp (List.mem_filter.mp member).1
  exact slugAt_eq assetName hourAgo soon (by omega)

omit hourAgo soon in
/-- Between two repeated hours lie more than 8002 hours. -/
theorem repeats_apart {earlier later : ℤ} (repeated : RepeatsHour earlier) (again : RepeatsHour later)
    (behind : earlier + 3600 ≤ later) : earlier + 8002 * 3600 < later := by
  have span := utcYear_span earlier
  have laterSpan := utcYear_span later
  have sundays := sundays_span (utcYear earlier)
  have laterSundays := sundays_span (utcYear later)
  unfold RepeatsHour instant at repeated again
  rcases lt_trichotomy (utcYear earlier) (utcYear later) with before | same | after_
  · have years := dayNumber_newYear_mono (Int.add_one_le_iff.mpr before)
    have length : dayNumber (newYear (utcYear earlier)) + 365 ≤ dayNumber (newYear (utcYear earlier + 1)) := by
      rw [dayNumber_newYear, dayNumber_newYear]
      omega
    omega
  · rw [same] at repeated
    omega
  · have years := dayNumber_newYear_mono (Int.add_one_le_iff.mpr after_)
    omega

omit soon in
/-- The code is the general loop over these slugs. -/
theorem hourSlugs_eq (small : now.toNat < 2 ^ 63) (count rounds index : ℕ) (slugs : List String) :
    hourSlugs assetName now count rounds ((index : ℤ) - 1) slugs =
      collectDistinct (slugAt assetName now) count rounds index slugs := by
  induction rounds generalizing index slugs with
  | zero => rfl
  | succ rounds ih =>
      have timestamp : now.toInt64.toInt + ((index : ℤ) - 1) * 3600 = hourAt now index := by
        rw [toInt_toInt64 small]
        rfl
      have natural : ¬hourAt now index < 0 := by
        unfold hourAt
        omega
      have next : (index : ℤ) - 1 + 1 = ((index + 1 : ℕ) : ℤ) - 1 := by omega
      unfold hourSlugs collectDistinct
      simp only [timestamp, natural, ↓reduceIte, next, ih]
      rfl

omit hourAgo soon in
theorem length_le_one {α : Type} {values : List α} (distinct : values.Nodup)
    (same : ∀ value ∈ values, ∀ other ∈ values, value = other) : values.length ≤ 1 := by
  rcases values with _ | ⟨first, _ | ⟨second, rest⟩⟩
  · exact Nat.zero_le _
  · exact le_rfl
  · have equal := same first List.mem_cons_self second (List.mem_cons_of_mem _ List.mem_cons_self)
    rw [equal] at distinct
    exact absurd List.mem_cons_self (List.nodup_cons.mp distinct).1

omit hourAgo soon in
/-- At most one of the hours is left out. -/
theorem length_listed {index : ℕ} (near : index ≤ 8002) :
    index ≤ ((List.range index).filter (Listed now)).length + 1 := by
  have split := List.length_eq_length_filter_add (l := List.range index) fun place => decide (Listed now place)
  have one : ((List.range index).filter fun place => !decide (Listed now place)).length ≤ 1 := by
    have repeated {place : ℕ} (member : place ∈ (List.range index).filter fun place => !decide (Listed now place)) :
        place < index ∧ RepeatsHour (hourAt now place) := by
      rw [List.mem_filter, List.mem_range, Bool.not_eq_true', decide_eq_false_iff_not, Listed, not_or, not_not] at member
      exact ⟨member.1, member.2.2⟩
    apply length_le_one (List.nodup_range.filter _)
    intro place member other otherMember
    obtain ⟨inside, again⟩ := repeated member
    obtain ⟨otherInside, otherAgain⟩ := repeated otherMember
    rcases Nat.lt_trichotomy place other with before | same | behind
    · have apart := repeats_apart again otherAgain (by unfold hourAt; omega)
      unfold hourAt at apart
      omega
    · exact same
    · have apart := repeats_apart otherAgain again (by unfold hourAt; omega)
      unfold hourAt at apart
      omega
  rw [List.length_range] at split
  omega

end Hours

/-- Until the year 9999, the offset of New York is four hours from 07:00 UTC of the second
Sunday of March to 06:00 UTC of the first Sunday of November, and five hours otherwise; and
up to 8000 slugs are listed, one for each wall-clock hour, where an hour is left out only
if it repeats a listed one at the end of daylight saving time. -/
theorem newYorkHours (assetName : String) (seconds : UInt64) (count : ℤ) (year : utcYear seconds.toNat ≤ 9999) :
    (∃ start finish, NthSunday (utcYear seconds.toNat) 3 2 start ∧ NthSunday (utcYear seconds.toNat) 11 1 finish ∧
      newYorkUtcOffset seconds =
        if instant start 7 ≤ seconds.toNat ∧ seconds.toNat < instant finish 6 then -4 * 3600 else -5 * 3600) ∧
    (3600 ≤ seconds.toNat → 0 ≤ count → count ≤ 8000 →
      ∃ visited slugs,
        (∀ rounds, visited < rounds → generateNewYorkHourSlugs rounds assetName seconds count = some slugs) ∧
        slugs = ((List.range visited).filter (Listed seconds)).map
          (fun index => (wallHour (hourAt seconds index)).slug assetName) ∧
        (slugs.length : ℤ) = count ∧ slugs.Nodup ∧
        ∀ index < visited, ¬Listed seconds index →
          1 ≤ index ∧ Listed seconds (index - 1) ∧
            wallHour (hourAt seconds (index - 1)) = wallHour (hourAt seconds index) ∧
            ∃ finish, NthSunday (utcYear (hourAt seconds index)) 11 1 finish ∧
              instant finish 6 ≤ hourAt seconds index ∧ hourAt seconds index < instant finish 7) := by
  have soon : seconds.toNat < 2 ^ 38 := by
    have span := (utcYear_span seconds.toNat).2
    have last := dayNumber_newYear_mono (Int.add_le_add_right year 1)
    have number : dayNumber (newYear (9999 + 1)) = 2932897 := by decide
    omega
  constructor
  · refine ⟨_, _, startSunday_nth _, endSunday_nth _, ?_⟩
    rw [newYorkUtcOffset_eq (by omega)]
    rfl
  · intro hourAgo natural few
    have enough : count.toNat ≤ (distinctBefore (slugAt assetName seconds) (count.toNat + 1)).length := by
      have listed : count.toNat + 1 ≤ ((List.range (count.toNat + 1)).filter (Listed seconds)).length + 1 :=
        length_listed (by omega)
      rw [distinctBefore_slugAt assetName hourAgo soon (by omega), List.length_map]
      omega
    obtain ⟨visited, near, length, runs⟩ := collectDistinct_total enough
    have listed := @distinctBefore_slugAt assetName seconds hourAgo soon visited (by omega)
    refine ⟨visited, distinctBefore (slugAt assetName seconds) visited, ?_, listed, by omega,
      nodup_distinctBefore visited, ?_⟩
    · intro rounds left
      unfold generateNewYorkHourSlugs
      split
      · next none_ =>
        have zero : count.toNat = 0 := by omega
        rw [zero, List.length_eq_zero_iff] at length
        rw [length]
      · have code := hourSlugs_eq assetName hourAgo (by omega) count.toNat rounds 0 []
        rw [← runs rounds left, ← code]
        rfl
    · intro index inside skipped
      rw [Listed, not_or, not_not] at skipped
      obtain ⟨positive, repeated⟩ := skipped
      obtain ⟨before, rfl⟩ := Nat.exists_eq_succ_of_ne_zero positive
      obtain ⟨same, first⟩ := repeated_hour repeated
      exact ⟨Nat.succ_pos before, first, same, _, endSunday_nth _, repeated⟩

/-- From half past midnight on 2 November 2025, four slugs are listed and the second 1:30 is left out. -/
theorem newYorkHours_november :
    ∃ visited slugs, (∀ rounds, visited < rounds → generateNewYorkHourSlugs rounds "bitcoin" 1762057800 4 = some slugs) ∧
      (slugs.length : ℤ) = 4 ∧ 4 < visited := by
  have year : utcYear 1762057800 = 2025 := utcYear_eq (by decide) (by decide)
  have repeated : ¬Listed 1762057800 3 := by
    have later : utcYear (hourAt 1762057800 3) = 2025 := utcYear_eq (by decide) (by decide)
    rw [Listed, RepeatsHour, later]
    decide
  obtain ⟨visited, slugs, runs, listed, length, -, -⟩ :=
    (newYorkHours "bitcoin" 1762057800 4 (by rw [show ((1762057800 : UInt64).toNat : ℤ) = 1762057800 from rfl, year]; decide)).2
      (by decide) (by decide) (by decide)
  refine ⟨visited, slugs, runs, length, ?_⟩
  rw [listed, List.length_map] at length
  have most := List.length_filter_le (fun index => decide (Listed 1762057800 index)) (List.range visited)
  by_contra few
  have all : ((List.range visited).filter (Listed 1762057800)).length = (List.range visited).length := by
    rw [List.length_range] at most ⊢
    omega
  rw [List.length_range] at most
  have third := List.length_filter_eq_length_iff.mp all 3 (List.mem_range.mpr (by omega))
  exact repeated (of_decide_eq_true third)

end Polymarket.Market
