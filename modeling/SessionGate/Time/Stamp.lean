import SessionGate.Time.Instant

/-!
# Written instants

Cookies carry an instant as weekday, date and time of day in whole seconds. Log events carry it
as a date and time, with as many decimal places as it needs in groups of three. What a leap second
adds to a minute is its second 60.
-/

namespace SessionGate.Time.Instant

/-- The time of day to the second, as two digits each for hours, minutes and seconds. -/
def clockText (instant : Instant) : List Char :=
  let seconds := instant.secondOfDay
  let leap := if instant.isLeap then 1 else 0
  Decimal.padded 2 (seconds / 3600) ++ ':' :: Decimal.padded 2 (seconds / 60 % 60) ++
    ':' :: Decimal.padded 2 (seconds % 60 + leap)

/-- The instant as a cookie's expiry. -/
def cookieStamp (instant : Instant) : String :=
  let date := instant.date
  Date.weekdayName (Date.weekday instant.dayNumber) ++ ", " ++
    String.ofList (Decimal.padded 2 date.day) ++ " " ++ Date.monthName date.month ++ " " ++
    String.ofList (Date.yearText date.year) ++ " " ++ String.ofList instant.clockText ++ " GMT"

/-- The decimal places of the seconds: none, three, six or nine. -/
def fractionText (instant : Instant) : List Char :=
  let fraction := instant.fraction % 1000000000
  if fraction = 0 then []
  else if fraction % 1000000 = 0 then '.' :: Decimal.padded 3 (fraction / 1000000)
  else if fraction % 1000 = 0 then '.' :: Decimal.padded 6 (fraction / 1000)
  else '.' :: Decimal.padded 9 fraction

/-- The instant in a log event. -/
def logStamp (instant : Instant) : String :=
  let date := instant.date
  String.ofList
    (Date.yearText date.year ++ '-' :: Decimal.padded 2 date.month ++
      '-' :: Decimal.padded 2 date.day ++ ' ' :: instant.clockText ++ instant.fractionText) ++
    " UTC"

end SessionGate.Time.Instant
