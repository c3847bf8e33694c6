import PromptTrainer.Timestamp
import Mathlib.Tactic.SplitIfs
/-!
# The civil calendar of timestamps

`Timestamp.civilFromDays` turns a count of days since 1970-01-01 into a date of the proleptic
Gregorian calendar, and `Timestamp.daysFromCivil` counts a date back to days.  Both count in
eras of 400 years (146097 days), each era and each year of it starting on March 1, so that a
leap day is the last day of its year.

The day of the era determines the year of the era by one division (`Timestamp.yearOfEra`).
That this division finds the year holding the day is the one step here that linear arithmetic
does not reach: the count it divides grows with the day, so the year it finds grows with the
day (`Timestamp.yearOfEra_le_yearOfEra`), and on the first and the last day of each of the
400 years of an era it is checked by evaluation (`Timestamp.yearOfEra_bounds_table`).  The
rest is arithmetic on the era, the year of the era and the day of that year.

Main statements: `Timestamp.daysFromCivil_civilFromDays` (counting back gives the day),
`Timestamp.civilFromDays_valid` (the date exists) and `Timestamp.civilFromDays_year_mem`
(the days of the timestamp range have the years of that range).
-/

namespace PromptTrainer

namespace Timestamp

/-- The day of an era, counted from its first March 1, on which its year `y` starts. -/
def yearStart (y : Int) : Int := 365 * y + y / 4 - y / 100

/-- The day of an era after the last day of its year `y`: the next year's start, or the end
of the era, whose last year keeps its leap day. -/
def yearEnd (y : Int) : Int := if y = 399 then 146097 else yearStart (y + 1)

/-- The year of an era that the calendar finds for a day of the era. -/
def yearOfEra (doe : Int) : Int := (doe - doe / 1460 + doe / 36524 - doe / 146096) / 365

/-! ### The year of a day of an era -/

/-- The year the calendar finds grows with the day. -/
theorem yearOfEra_le_yearOfEra {a b : Int} (start : 0 ≤ a) (le : a ≤ b) (inEra : b ≤ 146096) :
    yearOfEra a ≤ yearOfEra b := by
  unfold yearOfEra
  have last : b / 146096 - a / 146096 ≤ 1 := by omega
  have fours : b / 1460 - a / 1460 ≤ (b - a) / 1460 + 1 := by omega
  have centuries : a / 36524 ≤ b / 36524 := Int.ediv_le_ediv (by decide) le
  have count : a - a / 1460 + a / 36524 - a / 146096 ≤ b - b / 1460 + b / 36524 - b / 146096 := by
    omega
  exact Int.ediv_le_ediv (by decide) count

set_option maxRecDepth 2000 in
/-- On the first and the last day of each year of an era, the calendar finds that year. -/
theorem yearOfEra_bounds_table : ∀ y : Nat, y < 400 →
    yearOfEra (yearStart y) = y ∧ yearOfEra (yearEnd y - 1) = y := by
  decide +kernel

/-- The next year starts where a year other than the era's last one ends. -/
theorem yearEnd_of_ne {y : Int} (notLast : y ≠ 399) : yearEnd y = yearStart (y + 1) := by
  simp [yearEnd, notLast]

/-- Every day of an era lies in the year the calendar finds for it. -/
theorem yearOfEra_spec {doe : Int} (start : 0 ≤ doe) (inEra : doe ≤ 146096) :
    0 ≤ yearOfEra doe ∧ yearOfEra doe ≤ 399 ∧
      yearStart (yearOfEra doe) ≤ doe ∧ doe < yearEnd (yearOfEra doe) := by
  have atLeast : yearOfEra 0 ≤ yearOfEra doe := yearOfEra_le_yearOfEra (Int.le_refl 0) start inEra
  have atMost : yearOfEra doe ≤ yearOfEra 146096 :=
    yearOfEra_le_yearOfEra start inEra (Int.le_refl 146096)
  have first : yearOfEra 0 = 0 := by decide
  have last : yearOfEra 146096 = 399 := by decide
  obtain ⟨y, found⟩ : ∃ y, yearOfEra doe = y := ⟨_, rfl⟩
  rw [found] at atLeast atMost ⊢
  refine ⟨by omega, by omega, ?_, ?_⟩
  · -- a day before the start of year `y` would lie in year `y - 1` or earlier
    refine Int.not_lt.mp fun before => ?_
    have earlier : 1 ≤ y := by
      refine Int.not_lt.mp fun zero => ?_
      have : y = 0 := by omega
      subst this
      simp [yearStart] at before
      omega
    obtain ⟨-, endOfPrevious⟩ := yearOfEra_bounds_table (y - 1).toNat (by omega)
    have cast : (((y - 1).toNat : Nat) : Int) = y - 1 := by omega
    rw [cast, yearEnd_of_ne (by omega), Int.sub_add_cancel] at endOfPrevious
    have := yearOfEra_le_yearOfEra start (show doe ≤ yearStart y - 1 by omega)
      (by unfold yearStart; omega)
    omega
  · -- a day after the end of year `y` would lie in year `y + 1` or later
    refine Int.not_le.mp fun after => ?_
    have notLast : y ≠ 399 := by
      rintro rfl
      simp [yearEnd] at after
      omega
    obtain ⟨startOfNext, -⟩ := yearOfEra_bounds_table (y + 1).toNat (by omega)
    have cast : (((y + 1).toNat : Nat) : Int) = y + 1 := by omega
    rw [cast] at startOfNext
    rw [yearEnd_of_ne notLast] at after
    have := yearOfEra_le_yearOfEra (by unfold yearStart; omega) (show yearStart (y + 1) ≤ doe by omega)
      inEra
    omega

/-- A year of an era has 366 days when the calendar year in which it ends is a leap year, and
365 otherwise. -/
theorem yearEnd_sub_yearStart {y : Int} (low : 0 ≤ y) (high : y ≤ 399) :
    yearEnd y - yearStart y = if isLeapYear (y + 1) then 366 else 365 := by
  by_cases last : y = 399
  · subst last
    decide
  · rw [yearEnd_of_ne last]
    unfold yearStart
    by_cases leap : isLeapYear (y + 1) = true
    · simp only [isLeapYear, Bool.or_eq_true, Bool.and_eq_true, beq_iff_eq, bne_iff_ne, ne_eq] at leap
      rw [if_pos (by simpa [isLeapYear] using leap)]
      omega
    · simp only [isLeapYear, Bool.or_eq_true, Bool.and_eq_true, beq_iff_eq, bne_iff_ne, ne_eq,
        not_or, not_and, Decidable.not_not] at leap
      rw [if_neg (by simpa [isLeapYear] using leap)]
      omega

/-- A whole number of eras does not change whether a year is a leap year. -/
theorem isLeapYear_add_eras (year era : Int) : isLeapYear (year + era * 400) = isLeapYear year := by
  have four : (year + era * 400) % 4 = year % 4 := by omega
  have hundred : (year + era * 400) % 100 = year % 100 := by omega
  have fourHundred : (year + era * 400) % 400 = year % 400 := by omega
  simp only [isLeapYear, four, hundred, fourHundred]

/-! ### Dates as the calendar computes them -/

/-- The date of a day, from its era, its year of the era and its day in that year counted from
March 1 (`mp` is the month counted from March). -/
theorem civilFromDays_eq_of {days era doe y doy mp : Int}
    (eraOf : (days + 719468) / 146097 = era) (dayOfEra : days + 719468 - era * 146097 = doe)
    (yearOf : yearOfEra doe = y) (dayOfYear : doe - yearStart y = doy)
    (monthOf : (5 * doy + 2) / 153 = mp) :
    civilFromDays days = (y + era * 400 + (if (if mp < 10 then mp + 3 else mp - 9) ≤ 2 then 1 else 0),
      (if mp < 10 then mp + 3 else mp - 9).toNat, (doy - (153 * mp + 2) / 5 + 1).toNat) := by
  subst eraOf dayOfEra yearOf dayOfYear monthOf
  rfl

/-- Every day has an era, a year of the era and a day of that year, within their bounds, from
which the calendar computes its date. -/
theorem civilFromDays_parts (days : Int) :
    ∃ era y doy, days = era * 146097 + yearStart y + doy - 719468 ∧
      0 ≤ y ∧ y ≤ 399 ∧ 0 ≤ doy ∧ doy ≤ 365 ∧ (doy = 365 → isLeapYear (y + 1) = true) ∧
      civilFromDays days =
        (y + era * 400 + (if (if (5 * doy + 2) / 153 < 10 then (5 * doy + 2) / 153 + 3
            else (5 * doy + 2) / 153 - 9) ≤ 2 then 1 else 0),
          (if (5 * doy + 2) / 153 < 10 then (5 * doy + 2) / 153 + 3
            else (5 * doy + 2) / 153 - 9).toNat,
          (doy - (153 * ((5 * doy + 2) / 153) + 2) / 5 + 1).toNat) := by
  obtain ⟨era, eraOf⟩ : ∃ era, (days + 719468) / 146097 = era := ⟨_, rfl⟩
  obtain ⟨doe, dayOfEra⟩ : ∃ doe, days + 719468 - era * 146097 = doe := ⟨_, rfl⟩
  have inEra : 0 ≤ doe ∧ doe ≤ 146096 := by omega
  obtain ⟨y, yearOf⟩ : ∃ y, yearOfEra doe = y := ⟨_, rfl⟩
  obtain ⟨low, high, started, notEnded⟩ := yearOfEra_spec inEra.1 inEra.2
  rw [yearOf] at low high started notEnded
  have long := yearEnd_sub_yearStart low high
  refine ⟨era, y, doe - yearStart y, by omega, low, high, by omega, ?_, fun atEnd => ?_,
    civilFromDays_eq_of eraOf dayOfEra yearOf rfl rfl⟩
  · split at long <;> omega
  · cases leap : isLeapYear (y + 1)
    · simp [leap] at long
      omega
    · rfl

/-- Counting a date of year `y` of an era back to days, where `mp` is its month counted from
March and `day` its day of the month. -/
theorem daysFromCivil_of_parts {era y mp day : Int} (low : 0 ≤ y) (high : y ≤ 399)
    (monthLow : 0 ≤ mp) (monthHigh : mp ≤ 11) (dayPositive : 1 ≤ day) :
    daysFromCivil (y + era * 400 + (if (if mp < 10 then mp + 3 else mp - 9) ≤ 2 then 1 else 0))
        (if mp < 10 then mp + 3 else mp - 9).toNat day.toNat =
      era * 146097 + yearStart y + (153 * mp + 2) / 5 + day - 1 - 719468 := by
  have eraOf : (y + era * 400) / 400 = era := by omega
  simp only [daysFromCivil, yearStart]
  split_ifs <;> (try simp only [Int.add_zero, Int.add_sub_cancel, eraOf]) <;> omega

/-- Counting the date of a day back gives the day. -/
theorem daysFromCivil_civilFromDays (days : Int) :
    daysFromCivil (civilFromDays days).1 (civilFromDays days).2.1 (civilFromDays days).2.2 = days := by
  obtain ⟨era, y, doy, split, low, high, doyLow, lastDay, -, date⟩ := civilFromDays_parts days
  rw [date, daysFromCivil_of_parts low high (by omega) (by omega) (by omega)]
  omega

/-- The date of a day exists: its month is one of twelve, and its day one of the month's. -/
theorem civilFromDays_valid (days : Int) :
    1 ≤ (civilFromDays days).2.1 ∧ (civilFromDays days).2.1 ≤ 12 ∧ 1 ≤ (civilFromDays days).2.2 ∧
      (civilFromDays days).2.2 ≤ monthLength (civilFromDays days).1 (civilFromDays days).2.1 := by
  obtain ⟨era, y, doy, -, low, high, doyLow, lastDay, leapDay, date⟩ := civilFromDays_parts days
  have leapYear : isLeapYear (y + era * 400 + 1) = isLeapYear (y + 1) := by
    rw [show y + era * 400 + 1 = y + 1 + era * 400 by omega, isLeapYear_add_eras]
  obtain ⟨mp, monthOf⟩ : ∃ mp, (5 * doy + 2) / 153 = mp := ⟨_, rfl⟩
  rw [date, monthOf]
  -- the month counted from March decides the month and its length; February, the last month
  -- of the year of the era, has a leap day when that year has one
  have months : mp = 0 ∨ mp = 1 ∨ mp = 2 ∨ mp = 3 ∨ mp = 4 ∨ mp = 5 ∨ mp = 6 ∨ mp = 7 ∨
      mp = 8 ∨ mp = 9 ∨ mp = 10 ∨ mp = 11 := by omega
  rcases months with rfl | rfl | rfl | rfl | rfl | rfl | rfl | rfl | rfl | rfl | rfl | rfl
  all_goals simp only [monthLength]
  all_goals simp
  all_goals try omega
  rw [leapYear]
  cases leap : isLeapYear (y + 1)
  · have notLeapDay : doy ≠ 365 := fun atEnd => by simpa [leap] using leapDay atEnd
    simp
    omega
  · simp
    omega

/-- The days of the range of timestamps, from -262143-01-01 to 262142-12-31, have years in
that range. -/
theorem civilFromDays_year_mem {days : Int} (low : daysFromCivil minYear 1 1 ≤ days)
    (high : days ≤ daysFromCivil maxYear 12 31) :
    minYear ≤ (civilFromDays days).1 ∧ (civilFromDays days).1 ≤ maxYear := by
  obtain ⟨era, y, doy, split, yLow, yHigh, doyLow, lastDay, -, date⟩ := civilFromDays_parts days
  have first : daysFromCivil minYear 1 1 = -96465292 := by decide
  have last : daysFromCivil maxYear 12 31 = 95026236 := by decide
  have yearIs : (civilFromDays days).1 = y + era * 400 + (if 306 ≤ doy then 1 else 0) := by
    rw [date]
    dsimp only
    split_ifs <;> omega
  rw [yearIs]
  clear yearIs date
  unfold yearStart at split
  simp only [minYear, maxYear]
  -- the first and the last era of the range are the ones where the bounds bite
  have eras : era = -656 ∨ era = 655 ∨ (-655 ≤ era ∧ era ≤ 654) := by omega
  constructor <;> split <;> rcases eras with rfl | rfl | inner <;> omega

end Timestamp

end PromptTrainer
