import Mathlib

/-! The proleptic Gregorian calendar on day numbers, day 0 being 1970-01-01.
Years are counted from March, so that the leap day is the last day of a year
and the month lengths follow one linear formula. -/

namespace Clubzey.Foundation.Calendar

structure Date where
  year : Int
  month : Int
  day : Int
  deriving DecidableEq, Repr

def epoch : Int := 719468

def cycle : Int := 146097

def daysBeforeYear (marchYear : Int) : Int :=
  365 * marchYear + marchYear / 4 - marchYear / 100 + marchYear / 400

def daysBeforeMonth (marchMonth : Int) : Int := (153 * marchMonth + 2) / 5

/-- The number of a day. Months outside 1..12 roll over into other years and
days outside the month into other months. -/
def dayNumber (date : Date) : Int :=
  daysBeforeYear (date.year + (date.month - 3) / 12) + daysBeforeMonth ((date.month - 3) % 12) +
    (date.day - 1) - epoch

/-- The year within a cycle that a day of the cycle belongs to. The last day of
the last century, and of the last year of a leap period, is a leap day. -/
def yearOfCycle (day : Int) : Int :=
  let century := min (day / 36524) 3
  let inCentury := day - 36524 * century
  let period := inCentury / 1461
  let inPeriod := inCentury - 1461 * period
  100 * century + 4 * period + min (inPeriod / 365) 3

def dayOfYear (day : Int) : Int := day - daysBeforeYear (yearOfCycle day)

def dateOf (number : Int) : Date :=
  let shifted := number + epoch
  let marchYear := 400 * (shifted / cycle) + yearOfCycle (shifted % cycle)
  let inYear := dayOfYear (shifted % cycle)
  let marchMonth := (5 * inYear + 2) / 153
  { year := if marchMonth < 10 then marchYear else marchYear + 1
    month := if marchMonth < 10 then marchMonth + 3 else marchMonth - 9
    day := inYear - daysBeforeMonth marchMonth + 1 }

example : dateOf 0 = ⟨1970, 1, 1⟩ := by decide
example : dateOf 19051 = ⟨2022, 2, 28⟩ ∧ dateOf 11016 = ⟨2000, 2, 29⟩ := by decide

private theorem year_of_cycle {day : Int} (nonneg : 0 ≤ day) (inside : day < cycle) :
    0 ≤ yearOfCycle day ∧ yearOfCycle day < 400 ∧ 0 ≤ dayOfYear day ∧ dayOfYear day ≤ 365 := by
  obtain ⟨century, centuryIs⟩ : ∃ century, century = min (day / 36524) 3 := ⟨_, rfl⟩
  obtain ⟨inCentury, inCenturyIs⟩ : ∃ inCentury, inCentury = day - 36524 * century := ⟨_, rfl⟩
  obtain ⟨period, periodIs⟩ : ∃ period, period = inCentury / 1461 := ⟨_, rfl⟩
  obtain ⟨inPeriod, inPeriodIs⟩ : ∃ inPeriod, inPeriod = inCentury - 1461 * period := ⟨_, rfl⟩
  obtain ⟨year, yearIs⟩ : ∃ year, year = min (inPeriod / 365) 3 := ⟨_, rfl⟩
  have whole : yearOfCycle day = 100 * century + 4 * period + year := by
    simp only [yearOfCycle, centuryIs, inCenturyIs, periodIs, inPeriodIs, yearIs]
  unfold cycle at inside
  have centuryRange : 0 ≤ century ∧ century ≤ 3 ∧ 0 ≤ inCentury ∧ inCentury ≤ 36524 := by omega
  have periodRange : 0 ≤ period ∧ period ≤ 24 ∧ 0 ≤ inPeriod ∧ inPeriod ≤ 1460 := by omega
  have yearRange : 0 ≤ year ∧ year ≤ 3 ∧ 0 ≤ inPeriod - 365 * year ∧ inPeriod - 365 * year ≤ 365 := by omega
  -- With year < 4 and 4 * period + year < 100 the three divisions are exact.
  have quarters : (100 * century + 4 * period + year) / 4 = 25 * century + period := by omega
  have hundreds : (100 * century + 4 * period + year) / 100 = century := by omega
  have none : (100 * century + 4 * period + year) / 400 = 0 := by omega
  have inYear : dayOfYear day = inPeriod - 365 * year := by
    simp only [dayOfYear, daysBeforeYear, whole, quarters, hundreds, none]
    omega
  rw [whole, inYear]
  omega

private theorem month_of_year {inYear : Int} (nonneg : 0 ≤ inYear) (inside : inYear ≤ 365) :
    0 ≤ (5 * inYear + 2) / 153 ∧ (5 * inYear + 2) / 153 ≤ 11 ∧
      0 ≤ inYear - daysBeforeMonth ((5 * inYear + 2) / 153) ∧
      inYear - daysBeforeMonth ((5 * inYear + 2) / 153) ≤ 30 := by
  unfold daysBeforeMonth
  omega

private theorem cycle_range (shifted : Int) : 0 ≤ shifted % cycle ∧ shifted % cycle < cycle := by
  unfold cycle
  omega

theorem dateOf_month (number : Int) : 1 ≤ (dateOf number).month ∧ (dateOf number).month ≤ 12 := by
  obtain ⟨nonneg, inside⟩ := cycle_range (number + epoch)
  obtain ⟨_, _, first, last⟩ := year_of_cycle nonneg inside
  obtain ⟨_, _, _, _⟩ := month_of_year first last
  simp only [dateOf]
  split <;> omega

theorem dateOf_day (number : Int) : 1 ≤ (dateOf number).day ∧ (dateOf number).day ≤ 31 := by
  obtain ⟨nonneg, inside⟩ := cycle_range (number + epoch)
  obtain ⟨_, _, first, last⟩ := year_of_cycle nonneg inside
  obtain ⟨_, _, _, _⟩ := month_of_year first last
  simp only [dateOf]
  omega

theorem dateOf_year {number : Int} (near : number.natAbs ≤ 100000002) : (dateOf number).year.natAbs < 1000000 := by
  obtain ⟨nonneg, inside⟩ := cycle_range (number + epoch)
  obtain ⟨_, _, _, _⟩ := year_of_cycle nonneg inside
  have cycles : -1000 < (number + epoch) / cycle ∧ (number + epoch) / cycle < 1000 := by
    unfold epoch cycle
    omega
  simp only [dateOf]
  split <;> omega

private theorem daysBeforeYear_cycles (cycles year : Int) (nonneg : 0 ≤ year) (inside : year < 400) :
    daysBeforeYear (400 * cycles + year) = cycle * cycles + daysBeforeYear year := by
  unfold daysBeforeYear cycle
  omega

theorem dayNumber_dateOf (number : Int) : dayNumber (dateOf number) = number := by
  obtain ⟨nonneg, inside⟩ := cycle_range (number + epoch)
  obtain ⟨firstYear, lastYear, first, last⟩ := year_of_cycle nonneg inside
  obtain ⟨firstMonth, lastMonth, _, _⟩ := month_of_year first last
  have years := daysBeforeYear_cycles ((number + epoch) / cycle) _ firstYear lastYear
  have division : cycle * ((number + epoch) / cycle) + (number + epoch) % cycle = number + epoch :=
    Int.mul_ediv_add_emod _ _
  have inYear : dayOfYear ((number + epoch) % cycle) =
      (number + epoch) % cycle - daysBeforeYear (yearOfCycle ((number + epoch) % cycle)) := rfl
  obtain ⟨month, monthIs⟩ : ∃ month, month = (5 * dayOfYear ((number + epoch) % cycle) + 2) / 153 := ⟨_, rfl⟩
  simp only [dayNumber, dateOf, ← monthIs] at *
  by_cases early : month < 10
  · have shift : (month + 3 - 3) / 12 = 0 ∧ (month + 3 - 3) % 12 = month := by omega
    simp only [early, ite_true, shift, Int.add_zero]
    omega
  · have shift : (month - 9 - 3) / 12 = -1 ∧ (month - 9 - 3) % 12 = month := by omega
    simp only [early, ite_false, shift, Int.add_neg_cancel_right]
    omega

theorem dateOf_near {number : Int} (first : 0 ≤ (dateOf number).year) (last : (dateOf number).year ≤ 9999) :
    number.natAbs ≤ 4000000 := by
  have month := dateOf_month number
  have day := dateOf_day number
  have same := dayNumber_dateOf number
  unfold dayNumber daysBeforeYear daysBeforeMonth epoch at same
  omega

end Clubzey.Foundation.Calendar
