import SessionGate.Decimal.Integer

/-!
# The calendar

Days are numbered from the first of January 1970 and dated in the Gregorian calendar, extended
without end in both directions. A date is computed from a day number by counting in cycles of
400 years that begin in March; it is counted back by the lengths of years and months.
-/

namespace SessionGate.Time

/-- A date: year, month from 1, and day from 1. -/
structure Date where
  year : Int
  month : Nat
  day : Nat
  deriving DecidableEq, Repr

namespace Date

/-- The date of a day number. -/
def ofDayNumber (dayNumber : Int) : Date :=
  let shifted := dayNumber + 719468
  let cycle := shifted / 146097
  let dayOfCycle := (shifted % 146097).toNat
  let yearOfCycle :=
    (dayOfCycle - dayOfCycle / 1460 + dayOfCycle / 36524 - dayOfCycle / 146096) / 365
  let dayOfYear := dayOfCycle - (365 * yearOfCycle + yearOfCycle / 4 - yearOfCycle / 100)
  let monthFromMarch := (5 * dayOfYear + 2) / 153
  let day := dayOfYear - (153 * monthFromMarch + 2) / 5 + 1
  let month := if monthFromMarch < 10 then monthFromMarch + 3 else monthFromMarch - 9
  let year := cycle * 400 + yearOfCycle + (if month ≤ 2 then 1 else 0)
  ⟨year, month, day⟩

/-- A year has a 29th of February when four divides it, but not a hundred unless four hundred
does. -/
def isLeapYear (year : Int) : Bool :=
  year % 4 == 0 && (year % 100 != 0 || year % 400 == 0)

def monthLength (year : Int) (month : Nat) : Nat :=
  if month = 2 then (if isLeapYear year then 29 else 28)
  else if month = 4 ∨ month = 6 ∨ month = 9 ∨ month = 11 then 30
  else 31

def firstDayOfYear (year : Int) : Int :=
  let before := year - 1
  365 * (year - 1970) + (before / 4 - before / 100 + before / 400) - 477

/-- The days of a year before the given number of months has passed. -/
def daysInMonths (year : Int) : Nat → Nat
  | 0 => 0
  | months + 1 => daysInMonths year months + monthLength year (months + 1)

def dayNumber (date : Date) : Int :=
  firstDayOfYear date.year + daysInMonths date.year (date.month - 1) + (date.day - 1)

/-- The day of the week of a day number, from Sunday as 0. -/
def weekday (dayNumber : Int) : Nat :=
  ((dayNumber + 4) % 7).toNat

def weekdayName (weekday : Nat) : String :=
  #["Sun", "Mon", "Tue", "Wed", "Thu", "Fri", "Sat"].getD weekday ""

def monthName (month : Nat) : String :=
  #["", "Jan", "Feb", "Mar", "Apr", "May", "Jun", "Jul", "Aug", "Sep", "Oct", "Nov",
    "Dec"].getD month ""

/-- A year in four digits; outside 0 to 9999 with its sign and at least four digits. -/
def yearText (year : Int) : List Char :=
  if 0 ≤ year ∧ year ≤ 9999 then Decimal.padded 4 year.natAbs
  else (if year < 0 then '-' else '+') :: Decimal.padded 4 year.natAbs

end Date

end SessionGate.Time
