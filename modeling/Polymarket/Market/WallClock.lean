import Mathlib.Tactic.Ring
import Polymarket.Market.Time

/-! New York time. The offset from UTC follows from two Sundays of the UTC year; the
calendar date and the hour of a second are those of `gmtime_r`. -/

set_option autoImplicit false

namespace Polymarket.Market

open Calendar (CivilDate)

/-! ## The UTC calendar -/

theorem first_of_newYear (year : ℤ) : 1 ≤ 1 ∧ 1 ≤ Calendar.monthLength year 1 :=
  ⟨le_rfl, (by decide : 1 ≤ 28).trans (Calendar.monthLength_mem year 1).1⟩

def newYear (year : ℤ) : CivilDate where
  year := year
  month := 1
  day := 1
  month_mem := january
  day_mem := first_of_newYear year

/-- The date of a day since 1 January 1970: 400 years are 146097 days. -/
def civilDate (day : ℤ) : CivilDate :=
  CivilDate.next^[(day % 146097).toNat] (newYear (1970 + 400 * (day / 146097)))

/-- The fields of `std::tm` that the slugs are made of. -/
structure Tm where
  tmYear : ℤ
  tmMon : ℤ
  tmMday : ℤ
  tmHour : ℤ

/-- `gmtime_r`. -/
def gmtimeR (seconds : ℤ) : Tm where
  tmYear := (civilDate (seconds / 86400)).year - 1900
  tmMon := (civilDate (seconds / 86400)).month - 1
  tmMday := (civilDate (seconds / 86400)).day
  tmHour := seconds % 86400 / 3600

/-! ## The offset of New York -/

/-- The days since Sunday. -/
def weekday (year : ℤ) (month day : UInt32) : ℤ :=
  let value := (daysFromCivil year month day + 4).tmod 7
  if value < 0 then value + 7 else value

def newYorkUtcOffset (unixSeconds : UInt64) : ℤ :=
  let utc := gmtimeR unixSeconds.toInt64.toInt
  let year := utc.tmYear + 1900
  let secondSunday := UInt32.ofInt (1 + (7 - weekday year 3 1).tmod 7 + 7)
  let firstSunday := UInt32.ofInt (1 + (7 - weekday year 11 1).tmod 7)
  let dstStart := civilEpoch year 3 secondSunday 7 0 0
  let dstEnd := civilEpoch year 11 firstSunday 6 0 0
  if unixSeconds ≥ UInt64.ofInt dstStart ∧ unixSeconds < UInt64.ofInt dstEnd then -4 * 3600 else -5 * 3600

/-! ## Days of the week -/

/-- The days since Sunday; 1 January 1970 was a Thursday. -/
def dayOfWeek (date : CivilDate) : ℤ := (dayNumber date + 4) % 7

theorem dayOfWeek_epochDate : dayOfWeek epochDate = 4 := by decide

/-- A day is followed by the next day of the week. -/
theorem dayOfWeek_next (date : CivilDate) : dayOfWeek date.next = (dayOfWeek date + 1) % 7 := by
  unfold dayOfWeek
  rw [dayNumber_numbers date]
  omega

/-- The Sunday of a month with the given number. -/
structure NthSunday (year : ℤ) (month number : ℕ) (date : CivilDate) : Prop where
  year : date.year = year
  month : date.month = month
  sunday : dayOfWeek date = 0
  week : 7 * (number - 1) < date.day ∧ date.day ≤ 7 * number

/-- A month has only one Sunday of a number. -/
theorem NthSunday.unique {year : ℤ} {month number : ℕ} {date other : CivilDate}
    (nth : NthSunday year month number date) (otherNth : NthSunday year month number other) : date = other := by
  have sunday := nth.sunday
  have otherSunday := otherNth.sunday
  have week := nth.week
  have otherWeek := otherNth.week
  have days : date.day = other.day := by
    unfold dayOfWeek dayNumber marchYear at sunday otherSunday
    rw [nth.year, nth.month] at sunday
    rw [otherNth.year, otherNth.month] at otherSunday
    omega
  exact CivilDate.key_injective (by rw [CivilDate.key, CivilDate.key, nth.year, nth.month, otherNth.year, otherNth.month, days])

/-! ## Years -/

theorem dayNumber_newYear (year : ℤ) :
    dayNumber (newYear year) = 365 * (year - 1) + (year - 1) / 4 - (year - 1) / 100 + (year - 1) / 400 + 306 - 719468 := rfl

theorem dayNumber_civilDate (day : ℤ) : dayNumber (civilDate day) = day := by
  rw [civilDate, dayNumber_numbers.iterate, dayNumber_newYear]
  omega

/-- A date lies between two New Years. -/
theorem year_span (date : CivilDate) :
    dayNumber (newYear date.year) ≤ dayNumber date ∧ dayNumber date < dayNumber (newYear (date.year + 1)) := by
  have month := date.month_mem.1
  have day := date.day_mem.1
  constructor
  · apply dayNumber_numbers.strictMono.monotone
    rw [CivilDate.le_iff]
    change date.year < date.year ∨ date.year = date.year ∧ (1 < date.month ∨ 1 = date.month ∧ 1 ≤ date.day)
    omega
  · apply dayNumber_numbers.strictMono
    rw [CivilDate.lt_iff]
    exact .inl (Int.lt_succ _)

theorem dayNumber_newYear_mono {year later : ℤ} (ordered : year ≤ later) :
    dayNumber (newYear year) ≤ dayNumber (newYear later) := by
  rw [dayNumber_newYear, dayNumber_newYear]
  omega

theorem year_of_span {date : CivilDate} {year : ℤ} (begun : dayNumber (newYear year) ≤ dayNumber date)
    (going : dayNumber date < dayNumber (newYear (year + 1))) : date.year = year := by
  obtain ⟨lower, upper⟩ := year_span date
  rcases lt_trichotomy date.year year with earlier | same | later
  · have := dayNumber_newYear_mono (Int.add_one_le_iff.mpr earlier)
    omega
  · exact same
  · have := dayNumber_newYear_mono (Int.add_one_le_iff.mpr later)
    omega

/-- The year of a second in UTC. -/
def utcYear (seconds : ℤ) : ℤ := (civilDate (seconds / 86400)).year

theorem utcYear_span (seconds : ℤ) :
    dayNumber (newYear (utcYear seconds)) ≤ seconds / 86400 ∧
      seconds / 86400 < dayNumber (newYear (utcYear seconds + 1)) := by
  have span := year_span (civilDate (seconds / 86400))
  rwa [dayNumber_civilDate] at span

theorem utcYear_eq {seconds year : ℤ} (begun : dayNumber (newYear year) ≤ seconds / 86400)
    (going : seconds / 86400 < dayNumber (newYear (year + 1))) : utcYear seconds = year := by
  apply year_of_span
  · rwa [dayNumber_civilDate]
  · rwa [dayNumber_civilDate]

theorem le_utcYear {seconds : ℤ} (positive : 0 ≤ seconds) : 1970 ≤ utcYear seconds := by
  obtain ⟨-, upper⟩ := utcYear_span seconds
  rw [dayNumber_newYear] at upper
  omega

/-! ## The two Sundays -/

theorem first_of_month (year : ℤ) (month : ℕ) : 1 ≤ 1 ∧ 1 ≤ Calendar.monthLength year month :=
  ⟨le_rfl, (by decide : 1 ≤ 28).trans (Calendar.monthLength_mem year month).1⟩

section Sundays

variable (year : ℤ) {month : ℕ} (months : 1 ≤ month ∧ month ≤ 12)

def firstOf : CivilDate := ⟨year, month, 1, months, first_of_month year month⟩

/-- The days from the first of a month to its first Sunday. -/
def untilSunday : ℕ := ((7 - dayOfWeek (firstOf year months)) % 7).toNat

theorem untilSunday_lt : untilSunday year months < 7 := by
  unfold untilSunday
  omega

theorem sunday_mem {weeks : ℕ} (early : weeks ≤ 2) :
    1 ≤ 1 + untilSunday year months + 7 * weeks ∧
      1 + untilSunday year months + 7 * weeks ≤ Calendar.monthLength year month := by
  have soon := untilSunday_lt year months
  have long := (Calendar.monthLength_mem year month).1
  omega

/-- The first Sunday of a month, or one some weeks later. -/
def sundayOf {weeks : ℕ} (early : weeks ≤ 2) : CivilDate :=
  ⟨year, month, 1 + untilSunday year months + 7 * weeks, months, sunday_mem year months early⟩

theorem dayNumber_sundayOf {weeks : ℕ} (early : weeks ≤ 2) :
    dayNumber (sundayOf year months early) = dayNumber (firstOf year months) + untilSunday year months + 7 * weeks := by
  unfold dayNumber marchYear
  dsimp only [sundayOf, firstOf]
  omega

theorem sundayOf_nth {weeks : ℕ} (early : weeks ≤ 2) : NthSunday year month (weeks + 1) (sundayOf year months early) where
  year := rfl
  month := rfl
  sunday := by
    unfold dayOfWeek
    rw [dayNumber_sundayOf, untilSunday, dayOfWeek]
    omega
  week := by
    have soon := untilSunday_lt year months
    dsimp only [sundayOf]
    omega

end Sundays

theorem march : 1 ≤ 3 ∧ 3 ≤ 12 := by decide

theorem november : 1 ≤ 11 ∧ 11 ≤ 12 := by decide

/-- The second Sunday of March. -/
def startSunday (year : ℤ) : CivilDate := sundayOf year march (by decide : 1 ≤ 2)

/-- The first Sunday of November. -/
def endSunday (year : ℤ) : CivilDate := sundayOf year november (by decide : 0 ≤ 2)

theorem startSunday_nth (year : ℤ) : NthSunday year 3 2 (startSunday year) := sundayOf_nth year march _

theorem endSunday_nth (year : ℤ) : NthSunday year 11 1 (endSunday year) := sundayOf_nth year november _

/-- The second at which an hour of a UTC date begins. -/
def instant (date : CivilDate) (hour : ℕ) : ℤ := dayNumber date * 86400 + hour * 3600

/-- From 07:00 UTC of the second Sunday of March to 06:00 UTC of the first Sunday of November. -/
def DaylightSaving (seconds : ℤ) : Prop :=
  instant (startSunday (utcYear seconds)) 7 ≤ seconds ∧ seconds < instant (endSunday (utcYear seconds)) 6

instance decidableDaylightSaving (seconds : ℤ) : Decidable (DaylightSaving seconds) := inferInstanceAs (Decidable (_ ∧ _))

/-- Both Sundays lie well inside their year. -/
theorem sundays_span (year : ℤ) :
    dayNumber (newYear year) + 60 ≤ dayNumber (startSunday year) ∧
      dayNumber (startSunday year) + 200 ≤ dayNumber (endSunday year) ∧
      dayNumber (endSunday year) + 50 ≤ dayNumber (newYear (year + 1)) ∧
      dayNumber (newYear year) + 304 ≤ dayNumber (endSunday year) ∧
      dayNumber (endSunday year) ≤ dayNumber (newYear year) + 311 := by
  have start := (startSunday_nth year).week
  have finish := (endSunday_nth year).week
  have startNumber : dayNumber (startSunday year) =
      365 * year + year / 4 - year / 100 + year / 400 + (0 + (startSunday year).day - 1 : ℕ) - 719468 := rfl
  have finishNumber : dayNumber (endSunday year) =
      365 * year + year / 4 - year / 100 + year / 400 + (245 + (endSunday year).day - 1 : ℕ) - 719468 := rfl
  rw [startNumber, finishNumber, dayNumber_newYear, dayNumber_newYear]
  omega

/-! ## The offset -/

theorem weekday_eq (date : CivilDate) :
    weekday date.year (UInt32.ofNat date.month) (UInt32.ofNat date.day) = dayOfWeek date := by
  unfold weekday dayOfWeek
  rw [daysFromCivil_eq]
  dsimp only
  rw [Int.tmod_eq_emod]
  split
  · split
    · omega
    · omega
  · split
    · omega
    · omega

theorem weekday_first (year : ℤ) {month : ℕ} (months : 1 ≤ month ∧ month ≤ 12) :
    1 + (7 - weekday year (UInt32.ofNat month) 1).tmod 7 = (1 + untilSunday year months : ℕ) := by
  have first := weekday_eq (firstOf year months)
  change weekday year (UInt32.ofNat month) 1 = _ at first
  have range : 0 ≤ dayOfWeek (firstOf year months) ∧ dayOfWeek (firstOf year months) < 7 := by
    unfold dayOfWeek
    omega
  rw [first, Int.tmod_eq_emod_of_nonneg (by omega), untilSunday]
  omega

theorem civilEpoch_eq (date : CivilDate) {hour : ℕ} (small : hour < 24) :
    civilEpoch date.year (UInt32.ofNat date.month) (UInt32.ofNat date.day) (UInt32.ofNat hour) 0 0 = instant date hour := by
  unfold civilEpoch instant
  have words : (UInt32.ofNat hour * 3600).toNat = hour * 3600 := by
    rw [UInt32.toNat_mul, UInt32.toNat_ofNat_of_lt' (by rw [UInt32.size]; omega)]
    exact Nat.mod_eq_of_lt (by change hour * 3600 < 2 ^ 32; omega)
  rw [daysFromCivil_eq, words]
  push_cast
  ring

theorem toInt_toInt64 {word : UInt64} (fits : word.toNat < 2 ^ 63) : word.toInt64.toInt = word.toNat := by
  change word.toBitVec.toInt = word.toBitVec.toNat
  apply BitVec.toInt_eq_toNat_of_lt
  change 2 * word.toNat < 2 ^ 64
  omega

theorem toNat_ofInt {value : ℤ} (natural : 0 ≤ value) (fits : value < 2 ^ 64) : ((UInt64.ofInt value).toNat : ℤ) = value := by
  rw [UInt64.ofInt, UInt64.toNat_ofNat']
  omega

theorem ofInt_natCast (value : ℕ) : UInt32.ofInt value = UInt32.ofNat value := by
  rw [← UInt32.toNat_inj, UInt32.ofInt, UInt32.toNat_ofNat', UInt32.toNat_ofNat']
  omega

/-- The two instants of a year, as the code computes them. -/
theorem civilEpoch_sundays (year : ℤ) :
    civilEpoch year 3 (UInt32.ofInt (1 + (7 - weekday year 3 1).tmod 7 + 7)) 7 0 0 = instant (startSunday year) 7 ∧
      civilEpoch year 11 (UInt32.ofInt (1 + (7 - weekday year 11 1).tmod 7)) 6 0 0 = instant (endSunday year) 6 := by
  have start : 1 + (7 - weekday year 3 1).tmod 7 + 7 = ((startSunday year).day : ℕ) := by
    have first := weekday_first year march
    change 1 + (7 - weekday year 3 1).tmod 7 = _ at first
    rw [first]
    rfl
  have finish : 1 + (7 - weekday year 11 1).tmod 7 = ((endSunday year).day : ℕ) := weekday_first year november
  rw [start, finish, ofInt_natCast, ofInt_natCast]
  exact ⟨civilEpoch_eq (startSunday year) (by decide : 7 < 24), civilEpoch_eq (endSunday year) (by decide : 6 < 24)⟩

/-- Until far beyond the year 9999 the offset is four hours in daylight saving time and five otherwise. -/
theorem newYorkUtcOffset_eq {seconds : UInt64} (small : seconds.toNat < 2 ^ 40) :
    newYorkUtcOffset seconds = if DaylightSaving seconds.toNat then -4 * 3600 else -5 * 3600 := by
  have year : (gmtimeR seconds.toInt64.toInt).tmYear + 1900 = utcYear seconds.toNat := by
    rw [toInt_toInt64 (by omega)]
    exact Int.sub_add_cancel _ _
  obtain ⟨startEpoch, finishEpoch⟩ := civilEpoch_sundays (utcYear seconds.toNat)
  have span := utcYear_span (seconds.toNat : ℤ)
  have sundays := sundays_span (utcYear seconds.toNat)
  have first := dayNumber_newYear_mono (le_utcYear (Int.natCast_nonneg seconds.toNat))
  have epoch : dayNumber (newYear 1970) = 0 := rfl
  have start := @toNat_ofInt (instant (startSunday (utcYear seconds.toNat)) 7) (by unfold instant; omega)
    (by unfold instant; omega)
  have finish := @toNat_ofInt (instant (endSunday (utcYear seconds.toNat)) 6) (by unfold instant; omega)
    (by unfold instant; omega)
  unfold newYorkUtcOffset
  simp only [year, startEpoch, finishEpoch, ge_iff_le, UInt64.le_iff_toNat_le, UInt64.lt_iff_toNat_lt]
  apply if_congr _ rfl rfl
  unfold DaylightSaving
  omega

end Polymarket.Market
