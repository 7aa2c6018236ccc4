import Mathlib.Tactic.IntervalCases
import Mathlib.Tactic.NormNum
import Polymarket.Calendar
import Polymarket.Orders.Signing

/-! Calendar arithmetic in 32-bit words and the reader of ISO 8601 timestamps. Unsigned
terms wrap; years and days are plain integers, which no four-digit year takes out of
`int`. -/

set_option autoImplicit false

namespace Polymarket.Market

open Calendar (CivilDate)
open Orders (Bytes)

/-! ## Days -/

def dayOfYear (month day : UInt32) : UInt32 :=
  (153 * (month + (if month > 2 then UInt32.ofInt (-3) else 9)) + 2) / 5 + day - 1

def dayOfEra (yearOfEra dayOfYear : UInt32) : UInt32 :=
  yearOfEra * 365 + yearOfEra / 4 - yearOfEra / 100 + dayOfYear

/-- `days_from_civil` of `market_time.cpp`. -/
def daysFromCivil (year : Int) (month day : UInt32) : Int :=
  let year := if month ≤ 2 then year - 1 else year
  let era := (if year ≥ 0 then year else year - 399).tdiv 400
  let yearOfEra := UInt32.ofInt (year - era * 400)
  era * 146097 + (dayOfEra yearOfEra (dayOfYear month day)).toInt32.toInt - 719468

/-- `days_from_civil` of `rate_limit.cpp`. -/
def rateLimitDaysFromCivil (year : Int) (month day : UInt32) : Int :=
  let year := if month ≤ 2 then year - 1 else year
  let era := (if year ≥ 0 then year else year - 399).tdiv 400
  let yearOfEra := UInt32.ofInt (year - era * 400)
  era * 146097 + (dayOfEra yearOfEra (dayOfYear month day)).toNat - 719468

def civilEpoch (year : Int) (month day hour minute second : UInt32) : Int :=
  daysFromCivil year month day * 86400 + (hour * 3600).toNat + (minute * 60).toNat + second.toNat

def leapYear (year : Int) : Bool := year.tmod 4 == 0 && (year.tmod 100 != 0 || year.tmod 400 == 0)

def daysInMonth (year : Int) (month : UInt32) : UInt32 :=
  if month == 2 && leapYear year then 29
  else [0, 31, 28, 31, 30, 31, 30, 31, 31, 30, 31, 30, 31].getD month.toNat 0

/-! ## Timestamps -/

def parseDigit (result : UInt32) (digit : UInt8) : Option UInt32 :=
  if digit < '0'.toUInt8 ∨ digit > '9'.toUInt8 then none
  else some (result * 10 + (digit - '0'.toUInt8).toUInt32)

def parseDigits (value : Bytes) (offset count : Nat) : Option UInt32 :=
  if offset + count > value.length then none
  else ((value.drop offset).take count).foldlM parseDigit 0

/-- The milliseconds behind the seconds. -/
def parseFraction (value : Bytes) : Option UInt32 :=
  if value[19]? = some '.'.toUInt8 then
    let fractionSize := value.length - 21
    if fractionSize = 0 then none
    else if ((value.drop 20).take fractionSize).any fun digit => digit < '0'.toUInt8 || digit > '9'.toUInt8 then none
    else do
      let parsedDigits := min 3 fractionSize
      let milliseconds ← parseDigits value 20 parsedDigits
      if parsedDigits = 1 then some (milliseconds * 100)
      else if parsedDigits = 2 then some (milliseconds * 10)
      else some milliseconds
  else if value[19]? ≠ some 'Z'.toUInt8 ∨ value.length ≠ 20 then none
  else some 0

/-- The body of `parse_iso8601_ms`; `none` is its `return 0`. -/
def parseTimestamp (value : Bytes) : Option UInt64 :=
  if value.length < 20 ∨ value[4]? ≠ some '-'.toUInt8 ∨ value[7]? ≠ some '-'.toUInt8 ∨
      value[10]? ≠ some 'T'.toUInt8 ∨ value[13]? ≠ some ':'.toUInt8 ∨ value[16]? ≠ some ':'.toUInt8 ∨
      value.getLast? ≠ some 'Z'.toUInt8 then none
  else do
    let year ← parseDigits value 0 4
    let month ← parseDigits value 5 2
    let day ← parseDigits value 8 2
    let hour ← parseDigits value 11 2
    let minute ← parseDigits value 14 2
    let second ← parseDigits value 17 2
    if year < 1970 ∨ month < 1 ∨ month > 12 ∨ day < 1 ∨ day > daysInMonth year.toNat month ∨
        hour > 23 ∨ minute > 59 ∨ second > 59 then none
    else do
      let milliseconds ← parseFraction value
      let epoch := civilEpoch year.toNat month day hour minute second
      if epoch < 0 ∨ UInt64.ofInt epoch > (UInt64.ofNat (2 ^ 64 - 1) - milliseconds.toUInt64) / 1000 then none
      else some (UInt64.ofInt epoch * 1000 + milliseconds.toUInt64)

def parseIso8601Ms (value : Bytes) : UInt64 := (parseTimestamp value).getD 0

/-! ## Day numbers -/

theorem leapYear_iff (year : Int) : leapYear year = true ↔ Calendar.IsLeap year := by
  simp only [leapYear, Calendar.IsLeap, Bool.and_eq_true, Bool.or_eq_true, beq_iff_eq, bne_iff_ne, ne_eq,
    ← Int.dvd_iff_tmod_eq_zero, ← Int.dvd_iff_emod_eq_zero]

theorem daysInMonth_eq (year : Int) {month : Nat} (months : 1 ≤ month ∧ month ≤ 12) :
    (daysInMonth year (UInt32.ofNat month)).toNat = Calendar.monthLength year month := by
  obtain ⟨first, last⟩ := months
  unfold daysInMonth Calendar.monthLength
  interval_cases month
  all_goals simp [leapYear_iff]
  split <;> rfl

/-- The days of a year before a month, where the year begins in March. -/
def daysBefore : Nat → Nat
  | 1 => 306
  | 2 => 337
  | 3 => 0
  | 4 => 31
  | 5 => 61
  | 6 => 92
  | 7 => 122
  | 8 => 153
  | 9 => 184
  | 10 => 214
  | 11 => 245
  | _ => 275

theorem toNat_dayOfYear (date : CivilDate) :
    (dayOfYear (UInt32.ofNat date.month) (UInt32.ofNat date.day)).toNat = daysBefore date.month + date.day - 1 := by
  obtain ⟨year, month, day, ⟨first, last⟩, positive, within⟩ := date
  have short := within.trans (Calendar.monthLength_mem year month).2
  have small : (UInt32.ofNat day).toNat = day := UInt32.toNat_ofNat_of_lt' (by rw [UInt32.size]; omega)
  have offset : ∀ words : UInt32, words.toNat ≤ 337 → (words + UInt32.ofNat day - 1).toNat = words.toNat + day - 1 := by
    intro words few
    rw [UInt32.toNat_sub, UInt32.toNat_add, small]
    change (2 ^ 32 - 1 + (words.toNat + day) % 2 ^ 32) % 2 ^ 32 = _
    omega
  dsimp only
  unfold dayOfYear
  interval_cases month
  all_goals exact offset _ (by decide)

/-- The shifted year that begins in March. -/
def marchYear (date : CivilDate) : Int := if date.month ≤ 2 then date.year - 1 else date.year

def dayNumber (date : CivilDate) : Int :=
  365 * marchYear date + marchYear date / 4 - marchYear date / 100 + marchYear date / 400 +
    (daysBefore date.month + date.day - 1 : Nat) - 719468

theorem era_eq (year : Int) : (if year ≥ 0 then year else year - 399).tdiv 400 = year / 400 := by
  split
  · next nonnegative => exact Int.tdiv_eq_ediv_of_nonneg nonnegative
  · next negative =>
    rw [Int.tdiv_eq_ediv, Int.sign_eq_one_of_pos (by decide : (0 : Int) < 400)]
    split <;> omega

theorem toNat_yearOfEra (year : Int) : ((UInt32.ofInt (year - year / 400 * 400)).toNat : Int) = year % 400 := by
  rw [UInt32.ofInt, UInt32.toNat_ofNat']
  omega

/-- The days of an era and of the eras before it, without a word that wraps. -/
theorem toNat_dayOfEra {year : Int} {days : UInt32} (fits : days.toNat < 366) :
    (year / 400 * 146097 + (dayOfEra (UInt32.ofInt (year - year / 400 * 400)) days).toNat : Int) =
        365 * year + year / 4 - year / 100 + year / 400 + days.toNat ∧
      (dayOfEra (UInt32.ofInt (year - year / 400 * 400)) days).toNat < 2 ^ 31 := by
  have place := toNat_yearOfEra year
  generalize UInt32.ofInt (year - year / 400 * 400) = yearOfEra at place
  have words : (dayOfEra yearOfEra days).toNat =
      yearOfEra.toNat * 365 + yearOfEra.toNat / 4 - yearOfEra.toNat / 100 + days.toNat := by
    unfold dayOfEra
    rw [UInt32.toNat_add, UInt32.toNat_sub, UInt32.toNat_add, UInt32.toNat_mul, UInt32.toNat_div, UInt32.toNat_div]
    change ((2 ^ 32 - yearOfEra.toNat / 100 + (yearOfEra.toNat * 365 % 2 ^ 32 + yearOfEra.toNat / 4) % 2 ^ 32) % 2 ^ 32 +
      days.toNat) % 2 ^ 32 = _
    omega
  rw [words]
  omega

theorem toInt_toInt32 {word : UInt32} (fits : word.toNat < 2 ^ 31) : word.toInt32.toInt = word.toNat := by
  change word.toBitVec.toInt = word.toBitVec.toNat
  apply BitVec.toInt_eq_toNat_of_lt
  change 2 * word.toNat < 2 ^ 32
  omega

theorem month_le_two_iff (date : CivilDate) : UInt32.ofNat date.month ≤ 2 ↔ date.month ≤ 2 := by
  have months := date.month_mem
  rw [UInt32.le_iff_toNat_le, UInt32.toNat_ofNat_of_lt' (by rw [UInt32.size]; omega)]
  rfl

theorem dayOfYear_lt (date : CivilDate) :
    (dayOfYear (UInt32.ofNat date.month) (UInt32.ofNat date.day)).toNat < 366 := by
  rw [toNat_dayOfYear]
  obtain ⟨year, month, day, ⟨first, last⟩, positive, within⟩ := date
  dsimp only
  interval_cases month
  case «2» =>
    have february : Calendar.monthLength year 2 ≤ 29 := by
      change (if _ then 29 else 28) ≤ 29
      split <;> decide
    change 337 + day - 1 < 366
    omega
  all_goals
    have short := (Calendar.monthLength_mem year 1).2
    simp only [Calendar.monthLength, daysBefore] at within ⊢
    omega

theorem rateLimitDaysFromCivil_eq (date : CivilDate) :
    rateLimitDaysFromCivil date.year (UInt32.ofNat date.month) (UInt32.ofNat date.day) = dayNumber date := by
  unfold rateLimitDaysFromCivil
  simp only [month_le_two_iff, era_eq]
  rw [(toNat_dayOfEra (dayOfYear_lt date)).1, toNat_dayOfYear]
  rfl

theorem daysFromCivil_eq (date : CivilDate) :
    daysFromCivil date.year (UInt32.ofNat date.month) (UInt32.ofNat date.day) = dayNumber date := by
  have counted := rateLimitDaysFromCivil_eq date
  unfold rateLimitDaysFromCivil at counted
  unfold daysFromCivil
  simp only [month_le_two_iff, era_eq] at counted ⊢
  rw [toInt_toInt32 (toNat_dayOfEra (dayOfYear_lt date)).2]
  exact counted

/-- The formula counts the days one by one. -/
theorem dayNumber_numbers : Calendar.Numbers dayNumber := by
  intro date
  obtain ⟨first, -⟩ := date.month_mem
  have positive := date.day_mem.1
  unfold dayNumber marchYear
  obtain ⟨-, year, month, day⟩ | ⟨last, early, year, month, day⟩ | ⟨last, december, year, month, day⟩ := date.next_cases
  · rw [year, month, day]
    omega
  · rw [year, month, day, last]
    generalize date.year = shared at *
    generalize date.month = ending at *
    clear last year month day
    interval_cases ending
    case «2» =>
      change 365 * shared + shared / 4 - shared / 100 + shared / 400 + (0 + 1 - 1 : Nat) - 719468 =
        365 * (shared - 1) + (shared - 1) / 4 - (shared - 1) / 100 + (shared - 1) / 400 +
          (337 + (if Calendar.IsLeap shared then 29 else 28) - 1 : Nat) - 719468 + 1
      by_cases leap : Calendar.IsLeap shared
      · rw [if_pos leap]
        unfold Calendar.IsLeap at leap
        omega
      · rw [if_neg leap]
        unfold Calendar.IsLeap at leap
        omega
    all_goals
      simp [Calendar.monthLength, daysBefore]
      omega
  · rw [year, month, day, last, december]
    simp [Calendar.monthLength, daysBefore]
    omega

theorem january : 1 ≤ 1 ∧ 1 ≤ 12 := by decide

theorem first_of_january : 1 ≤ 1 ∧ 1 ≤ Calendar.monthLength 1970 1 := by decide

def epochDate : CivilDate where
  year := 1970
  month := 1
  day := 1
  month_mem := january
  day_mem := first_of_january

theorem dayNumber_epochDate : dayNumber epochDate = 0 := by decide

/-- Four-digit years are far from the ends of the machine integers. -/
theorem dayNumber_le {date : CivilDate} (year : date.year ≤ 9999) : dayNumber date ≤ 3000000 := by
  have days := dayOfYear_lt date
  rw [toNat_dayOfYear] at days
  unfold dayNumber marchYear
  split <;> omega

theorem epochDate_le {date : CivilDate} (year : 1970 ≤ date.year) : epochDate ≤ date := by
  have month := date.month_mem.1
  have day := date.day_mem.1
  rw [CivilDate.le_iff]
  change 1970 < date.year ∨ 1970 = date.year ∧ (1 < date.month ∨ 1 = date.month ∧ 1 ≤ date.day)
  omega

end Polymarket.Market
