import Mathlib.Tactic.Ring
import Polymarket.Market.Time
import Polymarket.Radix

/-! ISO 8601 timestamps: their texts, the instants they denote, and that the reader takes
every text to its instant and nothing else. -/

set_option autoImplicit false

namespace Polymarket.Market

open Calendar (CivilDate)
open Orders (Bytes)

/-! ## Texts -/

/-- A UTC timestamp from 1970 on, with the digits of its fraction. -/
structure Timestamp where
  date : CivilDate
  hour : Nat
  minute : Nat
  second : Nat
  fraction : List Nat
  year_mem : 1970 ≤ date.year ∧ date.year ≤ 9999
  hour_lt : hour < 24
  minute_lt : minute < 60
  second_lt : second < 60
  fraction_lt : ∀ digit ∈ fraction, digit < 10

def asciiDigit (digit : Nat) : UInt8 := UInt8.ofNat (48 + digit)

def field (width value : Nat) : Bytes := (fixedDigits 10 width value).map asciiDigit

def fractionText : List Nat → Bytes
  | [] => []
  | digit :: rest => '.'.toUInt8 :: (digit :: rest).map asciiDigit

namespace Timestamp

/-- `YYYY-MM-DDThh:mm:ss[.f+]Z`. -/
def text (timestamp : Timestamp) : Bytes :=
  field 4 timestamp.date.year.toNat ++ '-'.toUInt8 :: (field 2 timestamp.date.month ++ '-'.toUInt8 ::
    (field 2 timestamp.date.day ++ 'T'.toUInt8 :: (field 2 timestamp.hour ++ ':'.toUInt8 ::
      (field 2 timestamp.minute ++ ':'.toUInt8 :: (field 2 timestamp.second ++
        (fractionText timestamp.fraction ++ ['Z'.toUInt8]))))))

/-- The fraction in milliseconds, rounded down. -/
def millisecond (timestamp : Timestamp) : Nat :=
  radixValue 10 timestamp.fraction * 1000 / 10 ^ timestamp.fraction.length

def timeOfDay (timestamp : Timestamp) : Nat :=
  ((timestamp.hour * 60 + timestamp.minute) * 60 + timestamp.second) * 1000 + timestamp.millisecond

/-- At least a millisecond earlier. -/
def Earlier (timestamp other : Timestamp) : Prop :=
  timestamp.date < other.date ∨ timestamp.date = other.date ∧ timestamp.timeOfDay < other.timeOfDay

end Timestamp

/-! ## Digits -/

theorem asciiDigit_between {digit : Nat} (small : digit < 10) :
    ¬(asciiDigit digit < '0'.toUInt8 ∨ asciiDigit digit > '9'.toUInt8) := by
  have table : ∀ digit < 10, ¬(asciiDigit digit < '0'.toUInt8 ∨ asciiDigit digit > '9'.toUInt8) := by decide
  exact table digit small

theorem digit_of_between {byte : UInt8} (inside : ¬(byte < '0'.toUInt8 ∨ byte > '9'.toUInt8)) :
    ∃ digit < 10, byte = asciiDigit digit := by
  rw [not_or, UInt8.not_lt, gt_iff_lt, UInt8.not_lt, UInt8.le_iff_toNat_le, UInt8.le_iff_toNat_le] at inside
  have low : 48 ≤ byte.toNat := inside.1
  have high : byte.toNat ≤ 57 := inside.2
  use byte.toNat - 48
  constructor
  · omega
  · rw [asciiDigit, Nat.add_sub_cancel' low, UInt8.ofNat_toNat]

theorem parseDigit_asciiDigit (result : Nat) {digit : Nat} (small : digit < 10) :
    parseDigit (UInt32.ofNat result) (asciiDigit digit) = some (UInt32.ofNat (result * 10 + digit)) := by
  have place : ∀ digit < 10, (asciiDigit digit - '0'.toUInt8).toUInt32 = UInt32.ofNat digit := by decide
  rw [parseDigit, if_neg (asciiDigit_between small), place digit small, UInt32.ofNat_add, UInt32.ofNat_mul]
  rfl

theorem parseDigit_some {result next : UInt32} {byte : UInt8} (read : parseDigit result byte = some next) :
    ∃ digit < 10, byte = asciiDigit digit := by
  unfold parseDigit at read
  split at read
  · cases read
  · next inside => exact digit_of_between inside

theorem foldlM_parseDigit (start : Nat) {digits : List Nat} (small : ∀ digit ∈ digits, digit < 10) :
    (digits.map asciiDigit).foldlM parseDigit (UInt32.ofNat start) =
      some (UInt32.ofNat (start * 10 ^ digits.length + radixValue 10 digits)) := by
  induction digits generalizing start with
  | nil => simp
  | cons digit rest ih =>
      rw [List.map_cons, List.foldlM_cons, parseDigit_asciiDigit start (small digit List.mem_cons_self)]
      change (rest.map asciiDigit).foldlM parseDigit _ = _
      rw [ih _ fun other member => small other (List.mem_cons_of_mem _ member), radixValue_cons, List.length_cons,
        Nat.pow_succ]
      congr 2
      ring

theorem digits_of_foldlM {start result : UInt32} {bytes : Bytes} (read : bytes.foldlM parseDigit start = some result) :
    ∃ digits : List Nat, (∀ digit ∈ digits, digit < 10) ∧ bytes = digits.map asciiDigit := by
  induction bytes generalizing start with
  | nil => exact ⟨[], nofun, rfl⟩
  | cons byte rest ih =>
      rw [List.foldlM_cons] at read
      obtain ⟨middle, first, folded⟩ := Option.bind_eq_some_iff.mp read
      obtain ⟨digit, small, rfl⟩ := parseDigit_some first
      obtain ⟨digits, others, rfl⟩ := ih folded
      use digit :: digits
      constructor
      · rw [List.forall_mem_cons]
        exact ⟨small, others⟩
      · rfl

/-- A field of the text, read. -/
theorem parseDigits_digits {value : Bytes} {offset count : Nat} {digits : List Nat}
    (small : ∀ digit ∈ digits, digit < 10) (within : offset + count ≤ value.length)
    (slice : (value.drop offset).take count = digits.map asciiDigit) :
    parseDigits value offset count = some (UInt32.ofNat (radixValue 10 digits)) := by
  rw [parseDigits, if_neg (by omega), slice]
  have folded := foldlM_parseDigit 0 small
  rw [Nat.zero_mul, Nat.zero_add] at folded
  exact folded

theorem parseDigits_some {value : Bytes} {offset count : Nat} {result : UInt32} (narrow : count ≤ 9)
    (read : parseDigits value offset count = some result) :
    (value.drop offset).take count = field count result.toNat ∧ result.toNat < 10 ^ count := by
  unfold parseDigits at read
  split at read
  · cases read
  · next within =>
    obtain ⟨digits, small, slice⟩ := digits_of_foldlM read
    have folded := foldlM_parseDigit 0 small
    have length : digits.length = count := by
      have same := congrArg List.length slice
      rw [List.length_take, List.length_drop, List.length_map] at same
      omega
    have bound := @radixValue_lt 10 _ (by decide) small
    rw [length] at bound
    have fits : radixValue 10 digits < UInt32.size :=
      bound.trans_le ((Nat.pow_le_pow_right (by decide) narrow).trans (by decide))
    rw [slice] at read
    rw [Nat.zero_mul, Nat.zero_add] at folded
    change List.foldlM parseDigit 0 _ = _ at folded
    rw [folded] at read
    cases read
    rw [UInt32.toNat_ofNat_of_lt' fits]
    constructor
    · rw [slice, field, ← length, fixedDigits_radixValue (by decide) small]
    · exact bound

/-! ## Fractions -/

/-- The first three digits of a fraction, filled up with zeros, are its milliseconds. -/
theorem leadingDigits_eq {digits : List Nat} (small : ∀ digit ∈ digits, digit < 10) :
    radixValue 10 digits * 1000 / 10 ^ digits.length =
      radixValue 10 (digits.take (min 3 digits.length)) * 10 ^ (3 - digits.length) := by
  obtain few | many := Nat.le_total digits.length 3
  · rw [min_eq_right few, List.take_length]
    have split : 1000 = 10 ^ (3 - digits.length) * 10 ^ digits.length := by
      rw [← Nat.pow_add, Nat.sub_add_cancel few]
    rw [split, ← Nat.mul_assoc]
    exact Nat.mul_div_cancel _ (Nat.pow_pos (by decide))
  · rw [min_eq_left many, Nat.sub_eq_zero_of_le many]
    obtain ⟨front, back, rfl, three⟩ : ∃ front back, digits = front ++ back ∧ front.length = 3 :=
      ⟨digits.take 3, digits.drop 3, (List.take_append_drop 3 digits).symm, List.length_take_of_le many⟩
    have less := @radixValue_lt 10 _ (by decide) fun digit member => small digit (List.mem_append_right front member)
    have positive : 0 < 10 ^ back.length := Nat.pow_pos (by decide)
    rw [← three, List.take_left, radixValue_append, List.length_append, three, Nat.pow_add]
    change (radixValue 10 front * 10 ^ back.length + radixValue 10 back) * 1000 / (1000 * 10 ^ back.length) = _ * 1
    rw [Nat.mul_comm _ 1000, Nat.mul_div_mul_left _ _ (by decide), Nat.add_comm, Nat.add_mul_div_right _ _ positive,
      Nat.div_eq_of_lt less]
    omega

/-- The scaling of fewer than three digits. -/
theorem scaled_milliseconds {leading count : Nat} (some_ : 0 < count) (few : leading < 10 ^ min 3 count) :
    ∃ milliseconds, (if min 3 count = 1 then some (UInt32.ofNat leading * 100)
        else if min 3 count = 2 then some (UInt32.ofNat leading * 10) else some (UInt32.ofNat leading)) =
        some milliseconds ∧ milliseconds.toNat = leading * 10 ^ (3 - count) := by
  have small : leading < UInt32.size :=
    few.trans_le ((Nat.pow_le_pow_right (by decide) (min_le_left 3 count)).trans (by decide))
  obtain rfl | rfl | many : count = 1 ∨ count = 2 ∨ 3 ≤ count := by omega
  · refine ⟨_, rfl, ?_⟩
    rw [UInt32.toNat_mul, UInt32.toNat_ofNat_of_lt' small]
    change leading * 100 % 2 ^ 32 = leading * 100
    change leading < 10 at few
    omega
  · refine ⟨_, rfl, ?_⟩
    rw [UInt32.toNat_mul, UInt32.toNat_ofNat_of_lt' small]
    change leading * 10 % 2 ^ 32 = leading * 10
    change leading < 100 at few
    omega
  · rw [min_eq_left many, Nat.sub_eq_zero_of_le many]
    refine ⟨_, rfl, ?_⟩
    rw [UInt32.toNat_ofNat_of_lt' small]
    exact (Nat.mul_one leading).symm

theorem parseFraction_text {value : Bytes} {digits : List Nat} (small : ∀ digit ∈ digits, digit < 10)
    (tail : value.drop 19 = fractionText digits ++ ['Z'.toUInt8]) (long : 20 ≤ value.length) :
    ∃ milliseconds, parseFraction value = some milliseconds ∧
      milliseconds.toNat = radixValue 10 digits * 1000 / 10 ^ digits.length := by
  have first : value[19]? = (value.drop 19)[0]? := by rw [List.getElem?_drop]
  have length : value.length = 20 + (fractionText digits).length := by
    have same := congrArg List.length tail
    rw [List.length_drop, List.length_append, List.length_singleton] at same
    omega
  unfold parseFraction
  cases digits with
  | nil =>
      rw [tail] at first
      rw [if_neg (by rw [first]; decide), if_neg]
      · exact ⟨0, rfl, rfl⟩
      · rw [first, length]
        decide
  | cons digit rest =>
      rw [tail] at first
      have size : value.length - 21 = (digit :: rest).length := by
        rw [length, fractionText, List.length_cons, List.length_map]
        omega
      have behind : value.drop 20 = (digit :: rest).map asciiDigit ++ ['Z'.toUInt8] := by
        have step : value.drop 20 = (value.drop 19).drop 1 := by rw [List.drop_drop]
        rw [step, tail]
        rfl
      have listed : (value.drop 20).take (digit :: rest).length = (digit :: rest).map asciiDigit := by
        rw [behind, List.take_left' (by rw [List.length_map])]
      have digital : ((digit :: rest).map asciiDigit).any
          (fun byte => byte < '0'.toUInt8 || byte > '9'.toUInt8) = false := by
        rw [List.any_eq_false, List.forall_mem_map]
        intro other member
        rw [Bool.or_eq_true, decide_eq_true_iff, decide_eq_true_iff]
        exact asciiDigit_between (small other member)
      have slice : (value.drop 20).take (min 3 (digit :: rest).length) =
          ((digit :: rest).take (min 3 (digit :: rest).length)).map asciiDigit := by
        rw [behind, List.take_append_of_le_length (by rw [List.length_map]; omega), List.map_take]
      have read := parseDigits_digits (fun other member => small other (List.take_subset _ _ member)) (by omega) slice
      have few := @radixValue_lt 10 _ (by decide) fun other (member : other ∈ (digit :: rest).take
        (min 3 (digit :: rest).length)) => small other (List.take_subset _ _ member)
      rw [List.length_take, min_eq_left (min_le_right _ _)] at few
      rw [leadingDigits_eq small, if_pos (by rw [first]; rfl)]
      simp only [size, listed, digital, read]
      have nonempty : (digit :: rest).length ≠ 0 := Nat.succ_ne_zero _
      rw [if_neg nonempty, if_neg Bool.false_ne_true]
      exact scaled_milliseconds (Nat.pos_of_ne_zero nonempty) few

theorem digits_of_between {bytes : Bytes} (inside : ∀ byte ∈ bytes, ¬(byte < '0'.toUInt8 ∨ byte > '9'.toUInt8)) :
    ∃ digits : List Nat, (∀ digit ∈ digits, digit < 10) ∧ bytes = digits.map asciiDigit := by
  induction bytes with
  | nil => exact ⟨[], nofun, rfl⟩
  | cons byte rest ih =>
      rw [List.forall_mem_cons] at inside
      obtain ⟨digit, small, rfl⟩ := digit_of_between inside.1
      obtain ⟨digits, others, rfl⟩ := ih inside.2
      exact ⟨digit :: digits, List.forall_mem_cons.mpr ⟨small, others⟩, rfl⟩

theorem drop_eq_cons {value : Bytes} {index : Nat} {byte : UInt8} (found : value[index]? = some byte) :
    value.drop index = byte :: value.drop (index + 1) := by
  obtain ⟨within, rfl⟩ := List.getElem?_eq_some_iff.mp found
  exact List.drop_eq_getElem_cons within

theorem take_drop_append (value : Bytes) (offset count : Nat) :
    (value.drop offset).take count ++ value.drop (offset + count) = value.drop offset := by
  rw [← List.drop_drop, List.take_append_drop]

theorem parseFraction_some {value : Bytes} {milliseconds : UInt32} (read : parseFraction value = some milliseconds)
    (long : 20 ≤ value.length) (ended : value.getLast? = some 'Z'.toUInt8) :
    ∃ digits : List Nat, (∀ digit ∈ digits, digit < 10) ∧ value.drop 19 = fractionText digits ++ ['Z'.toUInt8] := by
  obtain ⟨front, rfl⟩ := List.getLast?_eq_some_iff.mp ended
  rw [List.length_append, List.length_singleton] at long
  unfold parseFraction at read
  split at read
  · next point =>
    dsimp only at read
    split at read
    · cases read
    · next several =>
      rw [List.length_append, List.length_singleton] at several
      split at read
      · cases read
      · next digital =>
        have body : ((front ++ ['Z'.toUInt8]).drop 20).take ((front ++ ['Z'.toUInt8]).length - 21) = front.drop 20 := by
          rw [List.drop_append_of_le_length (by omega), List.take_left' (by
            rw [List.length_drop, List.length_append, List.length_singleton]
            omega)]
        rw [body, Bool.not_eq_true, List.any_eq_false] at digital
        obtain ⟨digits, small, spelled⟩ := digits_of_between fun byte member => by
          have inside := digital byte member
          rwa [Bool.or_eq_true, decide_eq_true_iff, decide_eq_true_iff] at inside
        use digits
        constructor
        · exact small
        · rw [drop_eq_cons point, List.drop_append_of_le_length (by omega), spelled]
          cases digits with
          | nil =>
              have none : front.drop 20 = [] := spelled
              rw [List.drop_eq_nil_iff] at none
              omega
          | cons digit rest => rfl
  · split at read
    · cases read
    · next plain =>
      rw [not_or, not_not, not_not] at plain
      refine ⟨[], nofun, ?_⟩
      rw [drop_eq_cons plain.1, List.drop_eq_nil_of_le (le_of_eq plain.2)]
      rfl

/-! ## Reading -/

theorem parseDigits_field {value : Bytes} {offset count number : Nat} (fits : number < 10 ^ count)
    (within : offset + count ≤ value.length) (slice : (value.drop offset).take count = field count number) :
    parseDigits value offset count = some (UInt32.ofNat number) := by
  rw [parseDigits_digits (fun _ member => fixedDigits_lt (by decide) member) within slice, radixValue_fixedDigits fits]

namespace Timestamp

theorem text_drop (timestamp : Timestamp) :
    timestamp.text.drop 19 = fractionText timestamp.fraction ++ ['Z'.toUInt8] := rfl

theorem length_text (timestamp : Timestamp) : timestamp.text.length = 20 + (fractionText timestamp.fraction).length := by
  have parts := congrArg List.length (List.take_append_drop 19 timestamp.text)
  rw [text_drop, List.length_append, List.length_append, List.length_singleton] at parts
  change 19 + _ = _ at parts
  omega

theorem text_getLast (timestamp : Timestamp) : timestamp.text.getLast? = some 'Z'.toUInt8 := by
  rw [← List.take_append_drop 19 timestamp.text, text_drop, ← List.append_assoc]
  exact List.getLast?_concat

theorem toNat_small {number : Nat} (small : number < 10000) : (UInt32.ofNat number).toNat = number :=
  UInt32.toNat_ofNat_of_lt' (small.trans (by decide))

theorem year_toNat (timestamp : Timestamp) : ((timestamp.date.year.toNat : Nat) : Int) = timestamp.date.year :=
  Int.toNat_of_nonneg (by have := timestamp.year_mem.1; omega)

/-- The words of a timestamp pass the checks on its fields. -/
theorem fields_accepted (timestamp : Timestamp) :
    ¬(UInt32.ofNat timestamp.date.year.toNat < 1970 ∨ UInt32.ofNat timestamp.date.month < 1 ∨
      UInt32.ofNat timestamp.date.month > 12 ∨ UInt32.ofNat timestamp.date.day < 1 ∨
      UInt32.ofNat timestamp.date.day >
        daysInMonth (UInt32.ofNat timestamp.date.year.toNat).toNat (UInt32.ofNat timestamp.date.month) ∨
      UInt32.ofNat timestamp.hour > 23 ∨ UInt32.ofNat timestamp.minute > 59 ∨ UInt32.ofNat timestamp.second > 59) := by
  have years := timestamp.year_mem
  have months := timestamp.date.month_mem
  have days := timestamp.date.day_mem
  have short := (Calendar.monthLength_mem timestamp.date.year timestamp.date.month).2
  have hours := timestamp.hour_lt
  have minutes := timestamp.minute_lt
  have seconds := timestamp.second_lt
  simp only [UInt32.lt_iff_toNat_lt, gt_iff_lt]
  rw [toNat_small (by omega), toNat_small (by omega), toNat_small (by omega), toNat_small (by omega),
    toNat_small (by omega), toNat_small (by omega), timestamp.year_toNat, daysInMonth_eq _ months]
  change ¬(timestamp.date.year.toNat < 1970 ∨ timestamp.date.month < 1 ∨ 12 < timestamp.date.month ∨
    timestamp.date.day < 1 ∨ Calendar.monthLength timestamp.date.year timestamp.date.month < timestamp.date.day ∨
    23 < timestamp.hour ∨ 59 < timestamp.minute ∨ 59 < timestamp.second)
  omega

theorem civilEpoch_eq (timestamp : Timestamp) :
    civilEpoch (UInt32.ofNat timestamp.date.year.toNat).toNat (UInt32.ofNat timestamp.date.month)
        (UInt32.ofNat timestamp.date.day) (UInt32.ofNat timestamp.hour) (UInt32.ofNat timestamp.minute)
        (UInt32.ofNat timestamp.second) =
      dayNumber timestamp.date * 86400 +
        ((timestamp.hour * 60 + timestamp.minute) * 60 + timestamp.second : Nat) := by
  have years := timestamp.year_mem
  have hours := timestamp.hour_lt
  have minutes := timestamp.minute_lt
  have seconds := timestamp.second_lt
  rw [civilEpoch, toNat_small (by omega), timestamp.year_toNat, daysFromCivil_eq, UInt32.toNat_mul, UInt32.toNat_mul,
    toNat_small (by omega), toNat_small (by omega), toNat_small (by omega)]
  change dayNumber timestamp.date * 86400 + (timestamp.hour * 3600 % 2 ^ 32 : Nat) +
    (timestamp.minute * 60 % 2 ^ 32 : Nat) + (timestamp.second : Nat) = _
  rw [Nat.mod_eq_of_lt (by omega), Nat.mod_eq_of_lt (by omega)]
  omega

theorem millisecond_lt (timestamp : Timestamp) : timestamp.millisecond < 1000 := by
  have less := @radixValue_lt 10 _ (by decide) timestamp.fraction_lt
  apply Nat.div_lt_of_lt_mul
  exact Nat.mul_lt_mul_of_pos_right less (by decide)

theorem timeOfDay_lt (timestamp : Timestamp) : timestamp.timeOfDay < 24 * 60 * 60 * 1000 := by
  have hours := timestamp.hour_lt
  have minutes := timestamp.minute_lt
  have seconds := timestamp.second_lt
  have few := timestamp.millisecond_lt
  unfold timeOfDay
  omega

/-- The result fits, and the test before it does not fail. -/
theorem milliseconds_fit {epoch : UInt64} {milliseconds : UInt32} (near : epoch.toNat < 2 ^ 40)
    (few : milliseconds.toNat < 1000) :
    (epoch * 1000 + milliseconds.toUInt64).toNat = epoch.toNat * 1000 + milliseconds.toNat ∧
      ¬epoch > (UInt64.ofNat (2 ^ 64 - 1) - milliseconds.toUInt64) / 1000 := by
  have thousand : UInt64.toNat 1000 = 1000 := rfl
  have largest : (UInt64.ofNat (2 ^ 64 - 1)).toNat = 2 ^ 64 - 1 := UInt64.toNat_ofNat_of_lt' (by decide)
  constructor
  · rw [UInt64.toNat_add, UInt64.toNat_mul, thousand, UInt32.toNat_toUInt64]
    omega
  · rw [gt_iff_lt, UInt64.lt_iff_toNat_lt, UInt64.toNat_div, UInt64.toNat_sub, thousand, largest,
      UInt32.toNat_toUInt64]
    omega

theorem parseTimestamp_text (timestamp : Timestamp) :
    ∃ result, parseTimestamp timestamp.text = some result ∧
      (result.toNat : Int) = dayNumber timestamp.date * 86400000 + timestamp.timeOfDay := by
  have years := timestamp.year_mem
  have months := timestamp.date.month_mem
  have days := timestamp.date.day_mem
  have short := (Calendar.monthLength_mem timestamp.date.year timestamp.date.month).2
  have hours := timestamp.hour_lt
  have minutes := timestamp.minute_lt
  have seconds := timestamp.second_lt
  have length := timestamp.length_text
  obtain ⟨milliseconds, fraction, spelled⟩ := parseFraction_text timestamp.fraction_lt timestamp.text_drop (by omega)
  have year : parseDigits timestamp.text 0 4 = some (UInt32.ofNat timestamp.date.year.toNat) :=
    parseDigits_field (by omega) (by omega) rfl
  have month : parseDigits timestamp.text 5 2 = some (UInt32.ofNat timestamp.date.month) :=
    parseDigits_field (by omega) (by omega) rfl
  have day : parseDigits timestamp.text 8 2 = some (UInt32.ofNat timestamp.date.day) :=
    parseDigits_field (by omega) (by omega) rfl
  have hour : parseDigits timestamp.text 11 2 = some (UInt32.ofNat timestamp.hour) :=
    parseDigits_field (by omega) (by omega) rfl
  have minute : parseDigits timestamp.text 14 2 = some (UInt32.ofNat timestamp.minute) :=
    parseDigits_field (by omega) (by omega) rfl
  have second : parseDigits timestamp.text 17 2 = some (UInt32.ofNat timestamp.second) :=
    parseDigits_field (by omega) (by omega) rfl
  unfold parseTimestamp
  rw [if_neg]
  · simp only [year, month, day, hour, minute, second, Option.bind_eq_bind, Option.bind_some, fraction]
    rw [if_neg timestamp.fields_accepted]
    simp only [civilEpoch_eq]
    obtain ⟨count, -, counted⟩ := dayNumber_numbers.counts (epochDate_le years.1)
    have bounded := dayNumber_le years.2
    have few : milliseconds.toNat < 1000 := by
      rw [spelled]
      exact timestamp.millisecond_lt
    rw [dayNumber_epochDate] at counted
    have value : timestamp.timeOfDay =
        ((timestamp.hour * 60 + timestamp.minute) * 60 + timestamp.second) * 1000 + milliseconds.toNat := by
      rw [spelled]
      rfl
    have whole : (UInt64.ofInt (dayNumber timestamp.date * 86400 +
        ((timestamp.hour * 60 + timestamp.minute) * 60 + timestamp.second : Nat))).toNat =
        count * 86400 + ((timestamp.hour * 60 + timestamp.minute) * 60 + timestamp.second) := by
      rw [UInt64.ofInt, UInt64.toNat_ofNat', counted]
      omega
    obtain ⟨result, near⟩ := milliseconds_fit (by rw [whole]; omega) few
    rw [if_neg]
    · refine ⟨_, rfl, ?_⟩
      rw [result, whole, value, counted]
      push_cast
      ring
    · rw [not_or]
      constructor
      · omega
      · exact near
  · rintro (short | dash | dash | separator | colon | colon | ending)
    · omega
    · exact dash rfl
    · exact dash rfl
    · exact separator rfl
    · exact colon rfl
    · exact colon rfl
    · exact ending timestamp.text_getLast

end Timestamp

theorem toNat_parseIso8601Ms (timestamp : Timestamp) :
    ((parseIso8601Ms timestamp.text).toNat : Int) = dayNumber timestamp.date * 86400000 + timestamp.timeOfDay := by
  obtain ⟨result, read, value⟩ := timestamp.parseTimestamp_text
  rw [parseIso8601Ms, read]
  exact value

/-- What is read is the text of a timestamp. -/
theorem parseTimestamp_some {value : Bytes} {result : UInt64} (read : parseTimestamp value = some result) :
    ∃ timestamp : Timestamp, timestamp.text = value := by
  unfold parseTimestamp at read
  split at read
  · cases read
  · next shape =>
    simp only [not_or, not_not, not_lt] at shape
    obtain ⟨long, yearDash, monthDash, separator, hourColon, minuteColon, ending⟩ := shape
    obtain ⟨year, yearRead, read⟩ := Option.bind_eq_some_iff.mp read
    obtain ⟨month, monthRead, read⟩ := Option.bind_eq_some_iff.mp read
    obtain ⟨day, dayRead, read⟩ := Option.bind_eq_some_iff.mp read
    obtain ⟨hour, hourRead, read⟩ := Option.bind_eq_some_iff.mp read
    obtain ⟨minute, minuteRead, read⟩ := Option.bind_eq_some_iff.mp read
    obtain ⟨second, secondRead, read⟩ := Option.bind_eq_some_iff.mp read
    split at read
    · cases read
    · next valid =>
      obtain ⟨milliseconds, fractionRead, -⟩ := Option.bind_eq_some_iff.mp read
      obtain ⟨yearSlice, yearFits⟩ := parseDigits_some (by decide) yearRead
      obtain ⟨monthSlice, -⟩ := parseDigits_some (by decide) monthRead
      obtain ⟨daySlice, -⟩ := parseDigits_some (by decide) dayRead
      obtain ⟨hourSlice, -⟩ := parseDigits_some (by decide) hourRead
      obtain ⟨minuteSlice, -⟩ := parseDigits_some (by decide) minuteRead
      obtain ⟨secondSlice, -⟩ := parseDigits_some (by decide) secondRead
      obtain ⟨fraction, fractionSmall, tail⟩ := parseFraction_some fractionRead long ending
      simp only [UInt32.lt_iff_toNat_lt, gt_iff_lt, not_or, not_lt] at valid
      obtain ⟨yearLow, monthLow, monthHigh, dayLow, dayHigh, hourHigh, minuteHigh, secondHigh⟩ := valid
      have months : 1 ≤ month.toNat ∧ month.toNat ≤ 12 := ⟨monthLow, monthHigh⟩
      have days : (daysInMonth year.toNat month).toNat = Calendar.monthLength year.toNat month.toNat := by
        rw [← daysInMonth_eq _ months, UInt32.ofNat_toNat]
      rw [days] at dayHigh
      let timestamp : Timestamp := {
        date := {
          year := year.toNat, month := month.toNat, day := day.toNat, month_mem := months,
          day_mem := ⟨dayLow, dayHigh⟩ },
        hour := hour.toNat, minute := minute.toNat, second := second.toNat, fraction := fraction,
        year_mem := ⟨Int.ofNat_le.mpr yearLow, Int.ofNat_le.mpr (Nat.le_of_lt_succ yearFits)⟩,
        hour_lt := Nat.lt_succ_of_le hourHigh, minute_lt := Nat.lt_succ_of_le minuteHigh,
        second_lt := Nat.lt_succ_of_le secondHigh, fraction_lt := fractionSmall }
      use timestamp
      have slices : value = field 4 year.toNat ++ '-'.toUInt8 :: (field 2 month.toNat ++ '-'.toUInt8 ::
          (field 2 day.toNat ++ 'T'.toUInt8 :: (field 2 hour.toNat ++ ':'.toUInt8 ::
            (field 2 minute.toNat ++ ':'.toUInt8 :: (field 2 second.toNat ++
              (fractionText fraction ++ ['Z'.toUInt8])))))) := by
        rw [← tail, ← secondSlice, take_drop_append, ← drop_eq_cons minuteColon, ← minuteSlice, take_drop_append,
          ← drop_eq_cons hourColon, ← hourSlice, take_drop_append, ← drop_eq_cons separator, ← daySlice,
          take_drop_append, ← drop_eq_cons monthDash, ← monthSlice, take_drop_append, ← drop_eq_cons yearDash,
          ← yearSlice, take_drop_append, List.drop_zero]
      exact slices.symm

/-! ## The clock -/

/-- The day formula counts the days one by one from the epoch on, in both places, and a
text is read exactly when it is a timestamp, as the milliseconds since the epoch, which
order the timestamps. -/
theorem parseIso8601Ms_exact :
    (∀ date : CivilDate, daysFromCivil date.next.year (UInt32.ofNat date.next.month) (UInt32.ofNat date.next.day) =
        daysFromCivil date.year (UInt32.ofNat date.month) (UInt32.ofNat date.day) + 1) ∧
      daysFromCivil 1970 1 1 = 0 ∧
      (∀ date : CivilDate, rateLimitDaysFromCivil date.year (UInt32.ofNat date.month) (UInt32.ofNat date.day) =
        daysFromCivil date.year (UInt32.ofNat date.month) (UInt32.ofNat date.day)) ∧
      (∀ timestamp : Timestamp, ∃ days, CivilDate.next^[days] epochDate = timestamp.date ∧
        (parseIso8601Ms timestamp.text).toNat = days * (24 * 60 * 60 * 1000) + timestamp.timeOfDay) ∧
      (∀ value, (∀ timestamp : Timestamp, timestamp.text ≠ value) → parseIso8601Ms value = 0) ∧
      ∀ timestamp other : Timestamp, timestamp.Earlier other →
        parseIso8601Ms timestamp.text < parseIso8601Ms other.text := by
  constructor
  · intro date
    rw [daysFromCivil_eq, daysFromCivil_eq, dayNumber_numbers]
  constructor
  · exact (daysFromCivil_eq epochDate).trans dayNumber_epochDate
  constructor
  · intro date
    rw [rateLimitDaysFromCivil_eq, daysFromCivil_eq]
  constructor
  · intro timestamp
    obtain ⟨days, reached, counted⟩ := dayNumber_numbers.counts (epochDate_le timestamp.year_mem.1)
    have value := toNat_parseIso8601Ms timestamp
    rw [counted, dayNumber_epochDate] at value
    exact ⟨days, reached, by omega⟩
  constructor
  · intro value other
    cases read : parseTimestamp value with
    | none => rw [parseIso8601Ms, read, Option.getD_none]
    | some result =>
        obtain ⟨timestamp, same⟩ := parseTimestamp_some read
        exact absurd same (other timestamp)
  · intro timestamp other earlier
    have first := toNat_parseIso8601Ms timestamp
    have second := toNat_parseIso8601Ms other
    rw [UInt64.lt_iff_toNat_lt]
    obtain before | ⟨same, before⟩ := earlier
    · have days := dayNumber_numbers.strictMono before
      have short := timestamp.timeOfDay_lt
      omega
    · rw [same] at first
      omega

end Polymarket.Market
