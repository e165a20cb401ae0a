import Mathlib.Order.Monotone.Basic
import Mathlib.Tactic.IntervalCases
import SessionGate.Time.Calendar

/-!
# Dates counted day by day

The calendar can be counted: a day is followed by the next one of its month, or by the first of the
next month, and every day by the next one of the week. The date that is computed from a day number
is the one that such a count comes to, before 1970 as well as after, and the lengths of years and
months count it back to its number.

A computed date is found in a cycle of 400 years that begins in March, so that the day which a
leap year adds is the last one of its year.
-/

namespace SessionGate.Time.Date

/-- The date stands in the calendar. -/
structure IsProper (date : Date) : Prop where
  month_pos : 1 ≤ date.month
  month_le : date.month ≤ 12
  day_pos : 1 ≤ date.day
  day_le : date.day ≤ monthLength date.year date.month

/-- The date of the day after. -/
def next (date : Date) : Date :=
  if date.day < monthLength date.year date.month then ⟨date.year, date.month, date.day + 1⟩
  else if date.month < 12 then ⟨date.year, date.month + 1, 1⟩
  else ⟨date.year + 1, 1, 1⟩

/-- A day by its number, date and day of the week, counted in both directions from Thursday, the
first of January 1970. -/
inductive IsDay : Int → Date → Nat → Prop where
  | epoch : IsDay 0 ⟨1970, 1, 1⟩ 4
  | after {number : Int} {date : Date} {weekday : Nat} (day : IsDay number date weekday) :
      IsDay (number + 1) date.next ((weekday + 1) % 7)
  | before {number : Int} {date : Date} {weekday : Nat} (proper : date.IsProper)
      (named : weekday < 7) (day : IsDay (number + 1) date.next ((weekday + 1) % 7)) :
      IsDay number date weekday

variable {date first second : Date}

/-! ## Years and months -/

theorem isLeapYear_iff (year : Int) :
    isLeapYear year = true ↔ year % 4 = 0 ∧ (year % 100 ≠ 0 ∨ year % 400 = 0) := by
  simp [isLeapYear]

/-- The number of days of a year. -/
def yearLength (year : Int) : Nat :=
  if isLeapYear year then 366 else 365

theorem yearLength_le (year : Int) : yearLength year ≤ 366 := by
  rw [yearLength]
  split <;> decide

theorem firstDayOfYear_succ (year : Int) :
    firstDayOfYear (year + 1) = firstDayOfYear year + yearLength year := by
  simp only [firstDayOfYear, yearLength, isLeapYear_iff]
  split <;> omega

theorem firstDayOfYear_le {year later : Int} (order : year ≤ later) :
    firstDayOfYear year ≤ firstDayOfYear later := by
  refine monotone_int_of_le_succ (fun year => ?_) order
  have next := firstDayOfYear_succ year
  omega

theorem yearLength_eq (year : Int) : yearLength year = monthLength year 2 + 337 := by
  rw [monthLength, yearLength, if_pos rfl]
  split <;> rfl

theorem monthLength_of_ne_two {month : Nat} (other : month ≠ 2) (year : Int) :
    monthLength year month =
      if month = 4 ∨ month = 6 ∨ month = 9 ∨ month = 11 then 30 else 31 :=
  if_neg other

theorem monthLength_le (year : Int) (month : Nat) : monthLength year month ≤ 31 := by
  rw [monthLength]
  split_ifs <;> decide

theorem IsProper.day_le_31 (proper : date.IsProper) : date.day ≤ 31 :=
  Nat.le_trans proper.day_le (monthLength_le _ _)

theorem daysInMonths_twelve (year : Int) : daysInMonths year 12 = yearLength year := by
  rw [yearLength_eq]
  simp [daysInMonths, monthLength_of_ne_two]
  omega

theorem daysInMonths_le (year : Int) {month later : Nat} (order : month ≤ later) :
    daysInMonths year month ≤ daysInMonths year later :=
  monotone_nat_of_le_succ (fun _ => Nat.le_add_right _ _) order

/-! ## Dates in order -/

/-- A date lies within its month. -/
theorem IsProper.day_within (proper : date.IsProper) :
    daysInMonths date.year (date.month - 1) + date.day ≤ daysInMonths date.year date.month := by
  obtain ⟨month, same⟩ := Nat.exists_eq_add_of_le' proper.month_pos
  have within := proper.day_le
  rw [same] at within ⊢
  rw [Nat.add_sub_cancel, daysInMonths]
  omega

/-- A date lies within its year. -/
theorem IsProper.bounds (proper : date.IsProper) :
    firstDayOfYear date.year ≤ dayNumber date ∧
      dayNumber date < firstDayOfYear (date.year + 1) := by
  have positive := proper.day_pos
  have within := proper.day_within
  have inYear := daysInMonths_le date.year proper.month_le
  have whole := daysInMonths_twelve date.year
  have next := firstDayOfYear_succ date.year
  rw [dayNumber]
  omega

theorem year_le_of_dayNumber_le (firstProper : first.IsProper) (secondProper : second.IsProper)
    (order : dayNumber first ≤ dayNumber second) : first.year ≤ second.year := by
  by_contra later
  have years : firstDayOfYear (second.year + 1) ≤ firstDayOfYear first.year :=
    firstDayOfYear_le (Int.add_one_le_of_lt (Int.not_le.mp later))
  have low := firstProper.bounds.1
  have high := secondProper.bounds.2
  omega

theorem month_le_of_dayNumber_le (firstProper : first.IsProper) (secondProper : second.IsProper)
    (sameYear : first.year = second.year) (order : dayNumber first ≤ dayNumber second) :
    first.month ≤ second.month := by
  by_contra later
  have months : daysInMonths second.year second.month ≤
      daysInMonths second.year (first.month - 1) :=
    daysInMonths_le second.year (Nat.le_sub_one_of_lt (Nat.lt_of_not_le later))
  have within := secondProper.day_within
  have positive := firstProper.day_pos
  simp only [dayNumber, sameYear] at order
  omega

/-- No two dates of the calendar have the same number. -/
theorem eq_of_dayNumber_eq (firstProper : first.IsProper) (secondProper : second.IsProper)
    (same : dayNumber first = dayNumber second) : first = second := by
  have years : first.year = second.year := Int.le_antisymm
    (year_le_of_dayNumber_le firstProper secondProper same.le)
    (year_le_of_dayNumber_le secondProper firstProper same.ge)
  have months : first.month = second.month := Nat.le_antisymm
    (month_le_of_dayNumber_le firstProper secondProper years same.le)
    (month_le_of_dayNumber_le secondProper firstProper years.symm same.ge)
  have days : first.day = second.day := by
    simp only [dayNumber, years, months] at same
    omega
  cases first
  cases second
  cases years
  cases months
  cases days
  rfl

theorem IsProper.next (proper : date.IsProper) : date.next.IsProper := by
  obtain ⟨month_pos, month_le, day_pos, day_le⟩ := proper
  rw [Date.next]
  split
  case isTrue inMonth => exact ⟨month_pos, month_le, Nat.le_add_left 1 _, inMonth⟩
  case isFalse =>
    have some (year : Int) (month : Nat) : 1 ≤ monthLength year month := by
      rw [monthLength]
      split_ifs <;> decide
    split
    case isTrue inYear =>
      exact ⟨Nat.le_add_left 1 _, inYear, Nat.le_refl 1, some _ _⟩
    case isFalse => exact ⟨Nat.le_refl 1, Nat.le_add_left 1 11, Nat.le_refl 1, some _ _⟩

theorem dayNumber_next (proper : date.IsProper) : dayNumber date.next = dayNumber date + 1 := by
  obtain ⟨year, month, day⟩ := date
  obtain ⟨month_pos, month_le, day_pos, day_le⟩ := proper
  obtain ⟨months, rfl⟩ := Nat.exists_eq_add_of_le' month_pos
  dsimp only at day_pos day_le month_le
  simp only [Date.next]
  split
  case isTrue => simp only [dayNumber]; omega
  case isFalse last =>
    have counted : daysInMonths year (months + 1) =
      daysInMonths year months + monthLength year (months + 1) := rfl
    split
    case isTrue =>
      simp only [dayNumber, Nat.add_sub_cancel]
      omega
    case isFalse beyond =>
      obtain rfl : months = 11 := by omega
      have whole : daysInMonths year (11 + 1) = yearLength year := daysInMonths_twelve year
      have start := firstDayOfYear_succ year
      have none : daysInMonths (year + 1) 0 = 0 := rfl
      simp only [dayNumber, Nat.add_sub_cancel, Nat.sub_self, none]
      omega

/-! ## Cycles that begin in March -/

/-- The day number of the first of March. -/
def firstOfMarch (year : Int) : Int :=
  365 * year + (year / 4 - year / 100 + year / 400) - 719468

theorem firstOfMarch_eq (year : Int) : firstOfMarch year = firstDayOfYear (year + 1) - 306 := by
  simp only [firstDayOfYear, firstOfMarch]
  omega

/-- The date of a day of the year that begins in March. -/
def ofMarchYear (year : Int) (dayOfYear : Nat) : Date :=
  let monthFromMarch := (5 * dayOfYear + 2) / 153
  let day := dayOfYear - (153 * monthFromMarch + 2) / 5 + 1
  let month := if monthFromMarch < 10 then monthFromMarch + 3 else monthFromMarch - 9
  ⟨year + (if month ≤ 2 then 1 else 0), month, day⟩

theorem exists_monthFromMarch {dayOfYear : Nat} (inside : dayOfYear < 366) :
    ∃ month < 12, (5 * dayOfYear + 2) / 153 = month ∧ 153 * month ≤ 5 * dayOfYear + 2 ∧
      5 * dayOfYear + 2 < 153 * (month + 1) :=
  ⟨(5 * dayOfYear + 2) / 153, by omega⟩

/-- From March on the months follow each other as the division has them. -/
theorem isProper_ofMarchYear {year : Int} {dayOfYear : Nat}
    (inside : dayOfYear < yearLength (year + 1)) : (ofMarchYear year dayOfYear).IsProper := by
  have february := yearLength_eq (year + 1)
  obtain ⟨month, twelve, found, low, high⟩ :=
    exists_monthFromMarch (Nat.lt_of_lt_of_le inside (yearLength_le _))
  constructor
  case month_pos => simp only [ofMarchYear, found]; split <;> omega
  case month_le => simp only [ofMarchYear, found]; split <;> omega
  case day_pos => exact Nat.le_add_left 1 _
  case day_le =>
    simp only [ofMarchYear, found]
    interval_cases month <;> simp [monthLength_of_ne_two] <;> omega

/-- From March on the lengths of the months add up as the division has them. -/
theorem daysInMonths_add_two (year : Int) {months : Nat} (inYear : months ≤ 10) :
    daysInMonths year (months + 2) = 31 + monthLength year 2 + (153 * months + 2) / 5 := by
  induction months with
  | zero => simp [daysInMonths, monthLength_of_ne_two]
  | succ months ih =>
      have later : months + 2 + 1 ≠ 2 := by omega
      have small : months < 10 := inYear
      rw [Nat.add_right_comm, daysInMonths, ih (Nat.le_of_succ_le inYear),
        monthLength_of_ne_two later]
      interval_cases months <;> rfl

theorem dayNumber_ofMarchYear {year : Int} {dayOfYear : Nat}
    (inside : dayOfYear < yearLength (year + 1)) :
    dayNumber (ofMarchYear year dayOfYear) = firstOfMarch year + dayOfYear := by
  have february := yearLength_eq year
  have march := firstOfMarch_eq year
  have start := firstDayOfYear_succ year
  obtain ⟨month, twelve, found, low, high⟩ :=
    exists_monthFromMarch (Nat.lt_of_lt_of_le inside (yearLength_le _))
  simp only [ofMarchYear, found, dayNumber]
  by_cases early : month < 10
  case pos =>
    have notNextYear : ¬ month + 3 ≤ 2 := by omega
    have before := daysInMonths_add_two year (Nat.le_of_lt early)
    rw [if_pos early, if_neg notNextYear, Int.add_zero]
    change firstDayOfYear year + daysInMonths year (month + 2) + _ = _
    omega
  case neg =>
    have winter : month = 10 ∨ month = 11 := by omega
    have january : daysInMonths (year + 1) 1 = 31 := Nat.zero_add 31
    rcases winter with rfl | rfl
    · change firstDayOfYear (year + 1) + daysInMonths (year + 1) 0 + _ = _
      rw [daysInMonths]
      omega
    · change firstDayOfYear (year + 1) + daysInMonths (year + 1) 1 + _ = _
      rw [january]
      omega

/-- A day of a cycle: so many whole centuries, stretches of four years, and years lie before it, and
so many days of its own year. -/
structure CycleDay where
  centuries : Nat
  fours : Nat
  years : Nat
  days : Nat
  centuries_lt : centuries < 4
  fours_lt : fours < 25
  years_lt : years < 4
  /-- Four years have a day more at their end, but at the end of a century only the last has. -/
  days_lt : days < 365 ∨ days = 365 ∧ years = 3 ∧ (fours < 24 ∨ centuries = 3)

namespace CycleDay

variable (day : CycleDay)

def number : Nat :=
  36524 * day.centuries + 1461 * day.fours + 365 * day.years + day.days

def year : Nat :=
  100 * day.centuries + 4 * day.fours + day.years

theorem exists_number {number : Nat} (inside : number < 146097) :
    ∃ day : CycleDay, day.number = number := by
  by_cases last : number = 146096
  · subst last
    exact ⟨⟨3, 24, 3, 365, by decide, by decide, by decide, by decide⟩, rfl⟩
  · obtain ⟨rest, inCentury⟩ : ∃ rest, number % 36524 = rest := ⟨_, rfl⟩
    obtain ⟨years, least⟩ : ∃ years, min 3 (rest % 1461 / 365) = years := ⟨_, rfl⟩
    refine ⟨⟨number / 36524, rest / 1461, years, rest % 1461 - 365 * years, by omega, by omega,
      by omega, by omega⟩, ?_⟩
    dsimp only [CycleDay.number]
    omega

/-- How the year is found in the cycle. What is subtracted are the days that leap years have added,
each counted a little early, but not so early that a year would begin too late. -/
theorem yearOfCycle_eq :
    (day.number - day.number / 1460 + day.number / 36524 - day.number / 146096) / 365 =
      day.year := by
  obtain ⟨centuries, fours, years, days, centuries_lt, fours_lt, years_lt, days_lt⟩ := day
  simp only [number, year]
  generalize same : 36524 * centuries + 1461 * fours + 365 * years + days = number
  have century : number / 36524 = centuries + number / 146096 := by
    by_cases last : number = 146096
    · subst last
      omega
    · rw [Nat.div_eq_of_lt (by omega : number < 146096)]
      exact Nat.div_eq_of_lt_le (by omega) (by omega)
  have most : number / 1460 ≤ 25 * centuries + fours + days :=
    Nat.le_of_lt_succ (Nat.div_lt_of_lt_mul (by omega))
  have least : 25 * centuries + fours + days - 364 ≤ number / 1460 :=
    (Nat.le_div_iff_mul_le (by decide)).mpr (by omega)
  rw [century]
  generalize number / 1460 = leapDays at most least ⊢
  generalize number / 146096 = lastDay
  apply Nat.div_eq_of_lt_le <;> omega

theorem dayOfYear_eq :
    day.number - (365 * day.year + day.year / 4 - day.year / 100) = day.days := by
  obtain ⟨centuries, fours, years, days, centuries_lt, fours_lt, years_lt, days_lt⟩ := day
  simp only [number, year]
  omega

theorem days_lt_yearLength (cycle : Int) :
    day.days < yearLength (cycle * 400 + day.year + 1) := by
  obtain ⟨centuries, fours, years, days, centuries_lt, fours_lt, years_lt, days_lt⟩ := day
  simp only [yearLength, isLeapYear_iff, year]
  split <;> omega

theorem firstOfMarch_add_days (cycle : Int) :
    firstOfMarch (cycle * 400 + day.year) + day.days =
      cycle * 146097 + day.number - 719468 := by
  obtain ⟨centuries, fours, years, days, centuries_lt, fours_lt, years_lt, days_lt⟩ := day
  simp only [firstOfMarch, number, year]
  omega

end CycleDay

/-- Every day is one of a year that begins in March, and dated as such. -/
theorem exists_ofMarchYear (number : Int) :
    ∃ year dayOfYear, dayOfYear < yearLength (year + 1) ∧
      firstOfMarch year + dayOfYear = number ∧
      ofDayNumber number = ofMarchYear year dayOfYear := by
  have inside : ((number + 719468) % 146097).toNat < 146097 := by omega
  obtain ⟨day, same⟩ := CycleDay.exists_number inside
  refine ⟨(number + 719468) / 146097 * 400 + day.year, day.days, day.days_lt_yearLength _, ?_, ?_⟩
  · rw [day.firstOfMarch_add_days]
    omega
  · simp only [ofDayNumber, ← same, day.yearOfCycle_eq, day.dayOfYear_eq]
    rfl

/-! ## Days counted -/

theorem isProper_ofDayNumber (number : Int) : (ofDayNumber number).IsProper := by
  obtain ⟨year, dayOfYear, inside, -, found⟩ := exists_ofMarchYear number
  exact found ▸ isProper_ofMarchYear inside

/-- The date of a day number is counted back to it. -/
theorem dayNumber_ofDayNumber (number : Int) : dayNumber (ofDayNumber number) = number := by
  obtain ⟨year, dayOfYear, inside, same, found⟩ := exists_ofMarchYear number
  rw [found, dayNumber_ofMarchYear inside, same]

theorem ofDayNumber_succ (number : Int) : ofDayNumber (number + 1) = (ofDayNumber number).next := by
  have proper := isProper_ofDayNumber number
  apply eq_of_dayNumber_eq (isProper_ofDayNumber _) proper.next
  rw [dayNumber_next proper, dayNumber_ofDayNumber, dayNumber_ofDayNumber]

theorem weekday_lt (number : Int) : weekday number < 7 := by
  rw [weekday]
  omega

theorem weekday_succ (number : Int) : weekday (number + 1) = (weekday number + 1) % 7 := by
  simp only [weekday]
  omega

theorem isDay_ofDayNumber (number : Int) : IsDay number (ofDayNumber number) (weekday number) := by
  induction number using Int.induction_on with
  | zero => exact .epoch
  | succ number ih =>
      rw [ofDayNumber_succ, weekday_succ]
      exact ih.after
  | pred number ih =>
      have later : -(number : Int) - 1 + 1 = -number := by omega
      apply IsDay.before (isProper_ofDayNumber _) (weekday_lt _)
      rwa [← ofDayNumber_succ, ← weekday_succ, later]

end SessionGate.Time.Date
