import Mathlib.Data.Int.ConditionallyCompleteOrder
import Mathlib.Data.Prod.Lex
import Mathlib.Order.SuccPred.Archimedean

/-! The proleptic Gregorian calendar. Dates are ordered year by year, month by month and
day by day; the next date is the successor in this order, and every later date is reached
by going from one date to the next. -/

set_option autoImplicit false

namespace Polymarket.Calendar

def IsLeap (year : ℤ) : Prop := year % 4 = 0 ∧ (year % 100 ≠ 0 ∨ year % 400 = 0)

instance (year : ℤ) : Decidable (IsLeap year) := inferInstanceAs (Decidable (_ ∧ _))

def monthLength (year : ℤ) : ℕ → ℕ
  | 2 => if IsLeap year then 29 else 28
  | 4 | 6 | 9 | 11 => 30
  | _ => 31

structure CivilDate where
  year : ℤ
  month : ℕ
  day : ℕ
  month_mem : 1 ≤ month ∧ month ≤ 12
  day_mem : 1 ≤ day ∧ day ≤ monthLength year month
deriving DecidableEq

theorem monthLength_mem (year : ℤ) (month : ℕ) : 28 ≤ monthLength year month ∧ monthLength year month ≤ 31 := by
  unfold monthLength
  split
  · split <;> decide
  all_goals decide

namespace CivilDate

def next (date : CivilDate) : CivilDate :=
  if within : date.day < monthLength date.year date.month then
    { date with day := date.day + 1, day_mem := ⟨Nat.le_add_left 1 date.day, within⟩ }
  else if early : date.month < 12 then
    { year := date.year, month := date.month + 1, day := 1, month_mem := ⟨Nat.le_add_left 1 date.month, early⟩,
      day_mem := ⟨le_rfl, by have := monthLength_mem date.year (date.month + 1); omega⟩ }
  else
    { year := date.year + 1, month := 1, day := 1, month_mem := by decide,
      day_mem := ⟨le_rfl, by have := monthLength_mem (date.year + 1) 1; omega⟩ }

/-- What the next date is: a later day, a later month or a later year. -/
theorem next_cases (date : CivilDate) :
    (date.day < monthLength date.year date.month ∧ date.next.year = date.year ∧ date.next.month = date.month ∧
        date.next.day = date.day + 1) ∨
      (date.day = monthLength date.year date.month ∧ date.month < 12 ∧ date.next.year = date.year ∧
        date.next.month = date.month + 1 ∧ date.next.day = 1) ∨
      (date.day = monthLength date.year date.month ∧ date.month = 12 ∧ date.next.year = date.year + 1 ∧
        date.next.month = 1 ∧ date.next.day = 1) := by
  have month := date.month_mem.2
  have day := date.day_mem.2
  unfold next
  split
  · next within => exact .inl ⟨within, rfl, rfl, rfl⟩
  · next last =>
    split
    · next early => exact .inr (.inl ⟨by omega, early, rfl, rfl, rfl⟩)
    · next late => exact .inr (.inr ⟨by omega, by omega, rfl, rfl, rfl⟩)

/-! ## The order of dates -/

def key (date : CivilDate) : ℤ ×ₗ ℕ ×ₗ ℕ := toLex (date.year, toLex (date.month, date.day))

theorem key_injective : Function.Injective key := by
  rintro ⟨year, month, day, _, _⟩ ⟨otherYear, otherMonth, otherDay, _, _⟩ same
  simp only [key, EmbeddingLike.apply_eq_iff_eq, Prod.mk.injEq] at same
  obtain ⟨rfl, rfl, rfl⟩ := same
  rfl

instance linearOrder : LinearOrder CivilDate := LinearOrder.lift' key key_injective

theorem lt_iff {date other : CivilDate} :
    date < other ↔ date.year < other.year ∨ date.year = other.year ∧
      (date.month < other.month ∨ date.month = other.month ∧ date.day < other.day) := by
  change key date < key other ↔ _
  simp only [key, Prod.Lex.toLex_lt_toLex]

theorem le_iff {date other : CivilDate} :
    date ≤ other ↔ date.year < other.year ∨ date.year = other.year ∧
      (date.month < other.month ∨ date.month = other.month ∧ date.day ≤ other.day) := by
  change key date ≤ key other ↔ _
  simp only [key, Prod.Lex.toLex_le_toLex]

theorem lt_next (date : CivilDate) : date < date.next := by
  rw [lt_iff]
  obtain ⟨-, year, month, day⟩ | ⟨-, -, year, month, -⟩ | ⟨-, -, year, -, -⟩ := date.next_cases
  · omega
  · omega
  · omega

theorem next_le_iff {date other : CivilDate} : date.next ≤ other ↔ date < other := by
  constructor
  · intro reached
    exact date.lt_next.trans_le reached
  · intro later
    have otherMonth := other.month_mem
    have otherDay := other.day_mem
    rw [lt_iff] at later
    rw [le_iff]
    obtain ⟨-, year, month, day⟩ | ⟨last, -, year, month, day⟩ | ⟨last, december, year, month, day⟩ := date.next_cases
    · omega
    · rw [year, month, day]
      obtain earlier | ⟨sameYear, earlier | ⟨sameMonth, earlier⟩⟩ := later
      · exact .inl earlier
      · omega
      · rw [sameYear, sameMonth] at last
        omega
    · rw [year, month, day]
      obtain earlier | ⟨sameYear, earlier | ⟨sameMonth, earlier⟩⟩ := later
      · omega
      · omega
      · rw [sameYear, sameMonth] at last
        omega

instance succOrder : SuccOrder CivilDate := SuccOrder.ofSuccLeIff next next_le_iff

theorem succ_eq (date : CivilDate) : Order.succ date = date.next := rfl

/-- A number that grows with the date. -/
def rank (date : CivilDate) : ℤ := 372 * date.year + 31 * date.month + date.day

theorem rank_lt_next (date : CivilDate) : date.rank < date.next.rank := by
  have length := monthLength_mem date.year date.month
  unfold rank
  obtain ⟨-, year, month, day⟩ | ⟨last, -, year, month, day⟩ | ⟨last, december, year, month, day⟩ := date.next_cases
  · omega
  · omega
  · omega

theorem rank_le {date other : CivilDate} (ordered : date ≤ other) : date.rank ≤ other.rank := by
  have dateLength := monthLength_mem date.year date.month
  have month := date.month_mem
  have otherMonth := other.month_mem
  have day := date.day_mem
  have otherDay := other.day_mem
  rw [le_iff] at ordered
  unfold rank
  omega

/-- Every later date is reached in steps of one day. -/
theorem exists_iterate (gap : ℕ) : ∀ {date other : CivilDate}, date ≤ other → other.rank - date.rank ≤ gap →
    ∃ count, Order.succ^[count] date = other := by
  induction gap with
  | zero =>
      intro date other ordered near
      obtain rfl | later := ordered.eq_or_lt
      · exact ⟨0, rfl⟩
      · have above := rank_le (next_le_iff.mpr later)
        have step := date.rank_lt_next
        omega
  | succ gap ih =>
      intro date other ordered near
      obtain rfl | later := ordered.eq_or_lt
      · exact ⟨0, rfl⟩
      · have step := date.rank_lt_next
        obtain ⟨count, reached⟩ := ih (next_le_iff.mpr later) (by omega)
        use count + 1
        rwa [Function.iterate_succ_apply, succ_eq]

instance isSuccArchimedean : IsSuccArchimedean CivilDate where
  exists_succ_iterate_of_le {date other} ordered :=
    exists_iterate (other.rank - date.rank).toNat ordered (Int.self_le_toNat _)

end CivilDate

/-! ## Numberings of the days -/

/-- Consecutive dates have consecutive numbers. -/
def Numbers (number : CivilDate → ℤ) : Prop := ∀ date, number date.next = number date + 1

theorem Numbers.iterate {number : CivilDate → ℤ} (numbers : Numbers number) (date : CivilDate) (count : ℕ) :
    number (CivilDate.next^[count] date) = number date + count := by
  induction count with
  | zero => simp
  | succ count ih =>
      rw [Function.iterate_succ_apply', numbers, ih]
      omega

theorem Numbers.strictMono {number : CivilDate → ℤ} (numbers : Numbers number) : StrictMono number := by
  apply strictMono_of_lt_succ
  intro date _
  rw [CivilDate.succ_eq, numbers]
  exact Int.lt_succ _

/-- A numbering counts the days from any date on. -/
theorem Numbers.counts {number : CivilDate → ℤ} (numbers : Numbers number) {date other : CivilDate}
    (ordered : date ≤ other) :
    ∃ count, CivilDate.next^[count] date = other ∧ number other = number date + count := by
  obtain ⟨count, reached⟩ := ordered.exists_succ_iterate
  exact ⟨count, reached, by rw [← reached]; exact numbers.iterate date count⟩

end Polymarket.Calendar
