import SessionGate.Proofs.Decimal.Integer
import SessionGate.Proofs.Text.Dividing
import SessionGate.Proofs.Text.Visible
import SessionGate.Proofs.Time.Calendar
import SessionGate.Proofs.Time.Instant
import SessionGate.Time.Stamp

/-!
# Reading written instants

The end of a cookie is written as a day of the week, a date and a time of day. What is written can
be read back: the fields are those of the calendar and the clock in UTC, and together they tell the
whole second that the instant lies in. The text has the same form for all years of four digits.
-/

namespace SessionGate.Time

/-- A written instant, field by field. -/
structure Stamp where
  weekday : Nat
  date : Date
  hour : Nat
  minute : Nat
  second : Nat
  deriving DecidableEq

namespace Stamp

/-- The date stands in the calendar, and the time of day on the clock. -/
structure IsProper (stamp : Stamp) : Prop where
  date : stamp.date.IsProper
  hour : stamp.hour < 24
  minute : stamp.minute < 60
  second : stamp.second < 60

/-- The seconds from the beginning of 1970 to the date and the time of day. -/
def wholeSecond (stamp : Stamp) : Int :=
  Date.dayNumber stamp.date * 86400 + stamp.hour * 3600 + stamp.minute * 60 + stamp.second

def readNumber? (field : List Char) : Option Int :=
  (Decimal.IntegerRange.signed64.read (String.ofList field)).toOption

/-- A day of the week is read with the comma behind it. -/
def readWeekday? (field : List Char) : Option Nat :=
  (List.range 7).find? fun weekday => (Date.weekdayName weekday).toList ++ [','] == field

def readMonth? (field : List Char) : Option Nat :=
  (List.range' 1 12).find? fun month => (Date.monthName month).toList == field

/-- Read a text as a day of the week, a day, a month, a year and a time of day in UTC. -/
def read? (text : String) : Option Stamp :=
  match text.toList.splitOn ' ' with
  | [weekday, day, month, year, clock, ['G', 'M', 'T']] =>
      match clock.splitOn ':' with
      | [hour, minute, second] => do
          let weekday ← readWeekday? weekday
          let date : Date :=
            ⟨← readNumber? year, ← readMonth? month, (← readNumber? day).toNat⟩
          return ⟨weekday, date, (← readNumber? hour).toNat, (← readNumber? minute).toNat,
            (← readNumber? second).toNat⟩
      | _ => none
  | _ => none

end Stamp

/-- A text of so many characters, digits all of them. -/
def AreDigits (size : Nat) (text : String) : Prop :=
  text.length = size ∧ ∀ character ∈ text.toList, character.isDigit = true

/-- The form of a day of the week, a date with a year of four digits, and a time of day. -/
def HasFixedForm (text : String) : Prop :=
  ∃ weekday ∈ ["Sun", "Mon", "Tue", "Wed", "Thu", "Fri", "Sat"],
    ∃ month ∈ ["Jan", "Feb", "Mar", "Apr", "May", "Jun", "Jul", "Aug", "Sep", "Oct", "Nov", "Dec"],
    ∃ day year hour minute second, AreDigits 2 day ∧ AreDigits 4 year ∧ AreDigits 2 hour ∧
      AreDigits 2 minute ∧ AreDigits 2 second ∧
      text = weekday ++ ", " ++ day ++ " " ++ month ++ " " ++ year ++ " " ++ hour ++ ":" ++
        minute ++ ":" ++ second ++ " GMT"

theorem HasFixedForm.length {text : String} (fixed : HasFixedForm text) : text.length = 29 := by
  have weekdays : ∀ name ∈ ["Sun", "Mon", "Tue", "Wed", "Thu", "Fri", "Sat"], name.length = 3 := by
    decide
  have months : ∀ name ∈ ["Jan", "Feb", "Mar", "Apr", "May", "Jun", "Jul", "Aug", "Sep", "Oct",
    "Nov", "Dec"], name.length = 3 := by decide
  obtain ⟨weekday, isWeekday, month, isMonth, day, year, hour, minute, second, dayDigits,
    yearDigits, hourDigits, minuteDigits, secondDigits, rfl⟩ := fixed
  simp only [String.length_append, weekdays weekday isWeekday, months month isMonth, dayDigits.1,
    yearDigits.1, hourDigits.1, minuteDigits.1, secondDigits.1]
  rfl

namespace Instant

variable {instant other : Instant}

/-- The fields that a written instant has. -/
def stamp (instant : Instant) : Stamp where
  weekday := Date.weekday instant.dayNumber
  date := instant.date
  hour := instant.secondOfDay / 3600
  minute := instant.secondOfDay / 60 % 60
  second := instant.secondOfDay % 60

theorem secondOfDay_lt (instant : Instant) : instant.secondOfDay < 86400 := by
  rw [secondOfDay]
  omega

theorem isProper_stamp (instant : Instant) : instant.stamp.IsProper where
  date := Date.isProper_ofDayNumber _
  hour := Nat.div_lt_of_lt_mul instant.secondOfDay_lt
  minute := Nat.mod_lt _ (by decide)
  second := Nat.mod_lt _ (by decide)

theorem wholeSecond_stamp (instant : Instant) :
    instant.stamp.wholeSecond = instant.wholeSecond := by
  have days : Date.dayNumber instant.date = instant.dayNumber := Date.dayNumber_ofDayNumber _
  simp only [Stamp.wholeSecond, stamp, days, dayNumber, secondOfDay]
  omega

theorem nanos_div_second (plain : instant.isLeap = false) :
    instant.nanos / second = instant.wholeSecond := by
  simp only [isLeap, decide_eq_false_iff_not] at plain
  simp only [nanos, second]
  omega

/-! ## Fields and their characters -/

theorem visible_digitChar : ∀ digit < 10, Text.IsVisible (Decimal.digitChar digit) ∧
    Decimal.digitChar digit ≠ ' ' ∧ Decimal.digitChar digit ≠ ':' ∧
    (Decimal.digitChar digit).isDigit = true := by
  decide

/-- A field of a written instant: visible characters other than the space. -/
def IsField (field : List Char) : Prop :=
  ∀ character ∈ field, Text.IsVisible character ∧ character ≠ ' '

instance (field : List Char) : Decidable (IsField field) :=
  List.decidableBAll (fun character => Text.IsVisible character ∧ character ≠ ' ') field

theorem isField_append_iff {front back : List Char} :
    IsField (front ++ back) ↔ IsField front ∧ IsField back :=
  List.forall_mem_append

theorem isField_cons_iff {character : Char} {rest : List Char} :
    IsField (character :: rest) ↔
      (Text.IsVisible character ∧ character ≠ ' ') ∧ IsField rest :=
  List.forall_mem_cons

theorem isField_padded (width value : Nat) : IsField (Decimal.padded width value) := by
  intro character member
  obtain ⟨digit, small, rfl⟩ := Decimal.mem_padded member
  obtain ⟨visible, noSpace, -⟩ := visible_digitChar digit small
  exact ⟨visible, noSpace⟩

theorem isField_yearText (year : Int) : IsField (Date.yearText year) := by
  have signs : IsField ['-', '+'] := by decide
  rw [Date.yearText]
  split
  · exact isField_padded 4 year.natAbs
  · refine isField_cons_iff.mpr ⟨signs _ ?_, isField_padded 4 year.natAbs⟩
    split <;> decide

theorem isField_clockText (instant : Instant) : IsField instant.clockText := by
  have colon : Text.IsVisible ':' ∧ ':' ≠ ' ' := by decide
  simp only [clockText, isField_append_iff, isField_cons_iff]
  exact ⟨⟨isField_padded 2 _, colon, isField_padded 2 _⟩, colon, isField_padded 2 _⟩

theorem isField_weekdayName :
    ∀ weekday < 7, IsField ((Date.weekdayName weekday).toList ++ [',']) := by
  decide

theorem isField_monthName : ∀ month ≤ 12, IsField (Date.monthName month).toList := by
  decide

def stampFields (instant : Instant) : List (List Char) :=
  [(Date.weekdayName (Date.weekday instant.dayNumber)).toList ++ [','],
    Decimal.padded 2 instant.date.day, (Date.monthName instant.date.month).toList,
    Date.yearText instant.date.year, instant.clockText, ['G', 'M', 'T']]

theorem isField_of_mem_stampFields {field : List Char} (member : field ∈ instant.stampFields) :
    IsField field := by
  simp only [stampFields, List.mem_cons, List.not_mem_nil, or_false] at member
  rcases member with rfl | rfl | rfl | rfl | rfl | rfl
  · exact isField_weekdayName _ (Date.weekday_lt _)
  · exact isField_padded 2 _
  · exact isField_monthName _ (Date.isProper_ofDayNumber _).month_le
  · exact isField_yearText _
  · exact isField_clockText instant
  · decide

/-- A written instant is its fields, divided by spaces. -/
theorem toList_cookieStamp (instant : Instant) :
    instant.cookieStamp.toList = [' '].intercalate instant.stampFields := by
  simp [cookieStamp, stampFields, List.intercalate]

theorem isVisible_of_mem_cookieStamp {character : Char}
    (member : character ∈ instant.cookieStamp.toList) : Text.IsVisible character := by
  rw [toList_cookieStamp] at member
  rcases Text.mem_intercalate member with rfl | ⟨field, isField, inside⟩
  · decide
  · exact (isField_of_mem_stampFields isField character inside).1

theorem splitOn_cookieStamp (instant : Instant) :
    instant.cookieStamp.toList.splitOn ' ' = instant.stampFields := by
  rw [toList_cookieStamp]
  refine List.splitOn_intercalate ' ' (fun field member space => ?_) (List.cons_ne_nil _ _)
  exact (isField_of_mem_stampFields member ' ' space).2 rfl

theorem splitOn_clockText (plain : instant.isLeap = false) :
    instant.clockText.splitOn ':' =
      [Decimal.padded 2 instant.stamp.hour, Decimal.padded 2 instant.stamp.minute,
        Decimal.padded 2 instant.stamp.second] := by
  have joined : instant.clockText = [':'].intercalate [Decimal.padded 2 instant.stamp.hour,
      Decimal.padded 2 instant.stamp.minute, Decimal.padded 2 instant.stamp.second] := by
    simp [clockText, stamp, plain, List.intercalate]
  rw [joined]
  refine List.splitOn_intercalate ':' (fun field member colon => ?_) (List.cons_ne_nil _ _)
  have digits : ∀ value, ':' ∉ Decimal.padded 2 value := by
    intro value inside
    obtain ⟨digit, small, same⟩ := Decimal.mem_padded inside
    exact (visible_digitChar digit small).2.2.1 same.symm
  simp only [List.mem_cons, List.not_mem_nil, or_false] at member
  rcases member with rfl | rfl | rfl <;> exact digits _ colon

/-! ## Reading a written instant -/

theorem readWeekday?_weekdayName : ∀ weekday < 7,
    Stamp.readWeekday? ((Date.weekdayName weekday).toList ++ [',']) = some weekday := by
  decide

theorem readMonth?_monthName : ∀ month ≤ 12, 1 ≤ month →
    Stamp.readMonth? (Date.monthName month).toList = some month := by
  decide

theorem readNumber?_padded {value : Nat} (small : value < 2 ^ 63) (width : Nat) :
    Stamp.readNumber? (Decimal.padded width value) = some (value : Int) := by
  have fits : (value : Int) ≤ Decimal.IntegerRange.signed64.greatest :=
    Int.le_of_lt_add_one (Int.ofNat_lt.mpr small)
  rw [Stamp.readNumber?, Decimal.IntegerRange.read_padded fits]
  rfl

theorem readNumber?_yearText {year : Int} (small : year.natAbs < 2 ^ 63) :
    Stamp.readNumber? (Date.yearText year) = some year := by
  have fits : (year.natAbs : Int) ≤ Decimal.IntegerRange.signed64.greatest :=
    Int.le_of_lt_add_one (Int.ofNat_lt.mpr small)
  have lower : Decimal.IntegerRange.signed64.least ≤ -(year.natAbs : Int) :=
    Int.neg_le_neg (Int.le_trans fits (by decide))
  rw [Date.yearText]
  split
  case isTrue inCentury =>
    rw [readNumber?_padded small, Int.natAbs_of_nonneg inCentury.1]
  case isFalse =>
    split
    case isTrue negative =>
      have same : -(year.natAbs : Int) = year := by omega
      rw [Stamp.readNumber?, Decimal.IntegerRange.read_minus_padded (by decide) lower, same]
      rfl
    case isFalse notNegative =>
      rw [Stamp.readNumber?, Decimal.IntegerRange.read_plus_padded fits,
        Int.natAbs_of_nonneg (Int.not_lt.mp notNegative)]
      rfl

/-- The years of instants have no more than six digits. -/
theorem natAbs_year_lt (instant : Instant) : instant.date.year.natAbs < 2 ^ 63 := by
  have proper : instant.date.IsProper := Date.isProper_ofDayNumber _
  have days : Date.dayNumber instant.date = instant.dayNumber := Date.dayNumber_ofDayNumber _
  have inYear := proper.bounds
  have low := instant.notBefore
  have high := instant.notAfter
  rw [days] at inYear
  simp only [Date.firstDayOfYear, dayNumber, earliest, latest, second] at *
  omega

theorem read?_cookieStamp (plain : instant.isLeap = false) :
    Stamp.read? instant.cookieStamp = some instant.stamp := by
  have proper := instant.isProper_stamp
  have weekday := readWeekday?_weekdayName _ (Date.weekday_lt instant.dayNumber)
  have month := readMonth?_monthName _ proper.date.month_le proper.date.month_pos
  have year := readNumber?_yearText instant.natAbs_year_lt
  have pair {value : Nat} (small : value < 100) :
      Stamp.readNumber? (Decimal.padded 2 value) = some (value : Int) :=
    readNumber?_padded (Nat.lt_trans small (by decide)) 2
  have day := pair (Nat.lt_of_le_of_lt proper.date.day_le_31 (by decide))
  have hour := pair (Nat.lt_trans proper.hour (by decide))
  have minute := pair (Nat.lt_trans proper.minute (by decide))
  have second := pair (Nat.lt_trans proper.second (by decide))
  change Stamp.readMonth? (Date.monthName instant.date.month).toList = _ at month
  change Stamp.readNumber? (Decimal.padded 2 instant.date.day) = _ at day
  simp only [Stamp.read?, splitOn_cookieStamp, stampFields, splitOn_clockText plain, weekday, month,
    year, day, hour, minute, second]
  rfl

/-! ## What a written instant tells -/

/-- Instants outside of leap seconds are written the same way within a second. -/
theorem cookieStamp_congr (plain : instant.isLeap = false) (otherPlain : other.isLeap = false)
    (same : other.wholeSecond = instant.wholeSecond) : other.cookieStamp = instant.cookieStamp := by
  simp only [cookieStamp, clockText, date, dayNumber, secondOfDay, same, plain, otherPlain]

theorem wholeSecond_of_cookieStamp (plain : instant.isLeap = false)
    (otherPlain : other.isLeap = false) (same : other.cookieStamp = instant.cookieStamp) :
    other.wholeSecond = instant.wholeSecond := by
  have read := read?_cookieStamp otherPlain
  rw [same, read?_cookieStamp plain] at read
  rw [← wholeSecond_stamp, ← wholeSecond_stamp, Option.some.inj read]

theorem areDigits_padded {width value : Nat} (wide : 0 < width) (below : value < 10 ^ width) :
    AreDigits width (String.ofList (Decimal.padded width value)) := by
  constructor
  · rw [String.length_ofList, Decimal.length_padded wide below]
  · intro character member
    rw [String.toList_ofList] at member
    obtain ⟨digit, small, rfl⟩ := Decimal.mem_padded member
    exact (visible_digitChar digit small).2.2.2

theorem weekdayName_mem : ∀ weekday < 7,
    Date.weekdayName weekday ∈ ["Sun", "Mon", "Tue", "Wed", "Thu", "Fri", "Sat"] := by
  decide

theorem monthName_mem : ∀ month ≤ 12, 1 ≤ month →
    Date.monthName month ∈
      ["Jan", "Feb", "Mar", "Apr", "May", "Jun", "Jul", "Aug", "Sep", "Oct", "Nov", "Dec"] := by
  decide

theorem hasFixedForm_cookieStamp (plain : instant.isLeap = false) (low : 0 ≤ instant.date.year)
    (high : instant.date.year ≤ 9999) : HasFixedForm instant.cookieStamp := by
  have proper := instant.isProper_stamp
  have pair {value : Nat} (small : value < 100) :
      AreDigits 2 (String.ofList (Decimal.padded 2 value)) := areDigits_padded (by decide) small
  have year : AreDigits 4 (String.ofList (Decimal.padded 4 instant.date.year.natAbs)) :=
    areDigits_padded (by decide) (by omega)
  refine ⟨_, weekdayName_mem _ (Date.weekday_lt instant.dayNumber), _,
    monthName_mem _ proper.date.month_le proper.date.month_pos, _, _, _, _, _,
    pair (Nat.lt_of_le_of_lt proper.date.day_le_31 (by decide)), year,
    pair (Nat.lt_trans proper.hour (by decide)), pair (Nat.lt_trans proper.minute (by decide)),
    pair (Nat.lt_trans proper.second (by decide)), ?_⟩
  apply String.toList_injective
  simp [cookieStamp, clockText, stamp, plain, Date.yearText, low, high]

/-- What the text of an instant tells. -/
structure IsToldBy (instant : Instant) (stamp : Stamp) : Prop where
  read : Stamp.read? instant.cookieStamp = some stamp
  proper : stamp.IsProper
  /-- The fields are those of the whole second that contains the instant. -/
  wholeSecond : stamp.wholeSecond = instant.nanos / second
  /-- The date and the day of the week are what the calendar counts for the day. -/
  day : Date.IsDay (instant.nanos / second / 86400) stamp.date stamp.weekday
  notAfter : stamp.wholeSecond * second ≤ instant.nanos
  within : instant.nanos < stamp.wholeSecond * second + second
  distinct : ∀ other : Instant, other.isLeap = false →
    (other.cookieStamp = instant.cookieStamp ↔ other.nanos / second = instant.nanos / second)
  form : 0 ≤ stamp.date.year → stamp.date.year ≤ 9999 →
    HasFixedForm instant.cookieStamp ∧ instant.cookieStamp.length = 29

/-- The text of an instant outside of leap seconds tells the second that it lies in, by the calendar
and the clock in UTC. -/
theorem cookieStamp_tells_second (plain : instant.isLeap = false) :
    ∃ stamp, instant.IsToldBy stamp := by
  have whole := nanos_div_second plain
  have told : instant.stamp.wholeSecond = instant.nanos / second :=
    instant.wholeSecond_stamp.trans whole.symm
  refine ⟨instant.stamp, ?_⟩
  constructor
  case read => exact read?_cookieStamp plain
  case proper => exact instant.isProper_stamp
  case wholeSecond => exact told
  case day => exact whole ▸ Date.isDay_ofDayNumber instant.dayNumber
  case notAfter => exact told ▸ Int.ediv_mul_le _ (by decide)
  case within =>
    have next := Int.lt_ediv_add_one_mul_self instant.nanos (show 0 < second by decide)
    rwa [Int.add_mul, Int.one_mul, ← told] at next
  case distinct =>
    intro other otherPlain
    rw [whole, nanos_div_second otherPlain]
    exact ⟨wholeSecond_of_cookieStamp plain otherPlain, cookieStamp_congr plain otherPlain⟩
  case form =>
    intro low high
    have fixed := hasFixedForm_cookieStamp plain low high
    exact ⟨fixed, fixed.length⟩

/-- The last instant is written as the second that it ends. -/
theorem last_told : last.isLeap = false ∧ last.IsToldBy ⟨1, ⟨262142, 12, 31⟩, 23, 59, 59⟩ := by
  have plain : last.isLeap = false := rfl
  obtain ⟨stamp, told⟩ := cookieStamp_tells_second plain
  have fields : last.stamp = ⟨1, ⟨262142, 12, 31⟩, 23, 59, 59⟩ := by decide
  rw [← fields, Option.some.inj ((read?_cookieStamp plain).symm.trans told.read)]
  exact ⟨plain, told⟩

end Instant

end SessionGate.Time
