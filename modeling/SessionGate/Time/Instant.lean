import SessionGate.Time.Calendar

/-!
# Instants, spans and lifetimes

An instant is a whole second since the beginning of 1970 and a fraction of it, in the days from
-262143-01-01 to 262142-12-31. The last second of a minute may be a leap second: then it goes on
for a second more before the next minute begins. A span is a difference with a sign, and a lifetime
a span without one. Sums that leave the range of instants do not exist.
-/

namespace SessionGate.Time

def second : Int := 1000000000

/-- The earliest instant, in nanoseconds. -/
def earliest : Int := -8334601228800000000000

/-- The latest instant that is not in a leap second, in nanoseconds. -/
def latest : Int := 8210266876799999999999

/-- The greatest span, in nanoseconds: the milliseconds of a 64-bit integer. -/
def widestSpan : Int := 9223372036854775807000000

/-- Whether a fraction in nanoseconds belongs to a whole second. In the last second of a minute it
may be one second and more. -/
def IsFractionOf (wholeSecond : Int) (fraction : Nat) : Prop :=
  fraction < 1000000000 ∨ (wholeSecond % 60 = 59 ∧ fraction < 2000000000)

instance (wholeSecond : Int) (fraction : Nat) : Decidable (IsFractionOf wholeSecond fraction) :=
  inferInstanceAs (Decidable (_ ∨ _))

/-- An instant: the whole second that it lies in, and the nanoseconds since that began. -/
structure Instant where
  wholeSecond : Int
  fraction : Nat
  notBefore : earliest / second ≤ wholeSecond
  notAfter : wholeSecond ≤ latest / second
  isFraction : IsFractionOf wholeSecond fraction
  deriving DecidableEq

/-- A length of time with a sign, in nanoseconds. -/
structure Span where
  nanos : Int
  notBelow : -widestSpan ≤ nanos
  notAbove : nanos ≤ widestSpan
  deriving DecidableEq

/-- A length of time without a sign, in nanoseconds. The whole seconds fit in 64 bits. -/
structure Lifetime where
  nanos : Nat
  bounded : nanos < 18446744073709551616000000000
  deriving DecidableEq

namespace Instant

instance : LE Instant := ⟨fun left right =>
  left.wholeSecond < right.wholeSecond ∨
    (left.wholeSecond = right.wholeSecond ∧ left.fraction ≤ right.fraction)⟩

instance : LT Instant := ⟨fun left right =>
  left.wholeSecond < right.wholeSecond ∨
    (left.wholeSecond = right.wholeSecond ∧ left.fraction < right.fraction)⟩

instance (left right : Instant) : Decidable (left ≤ right) :=
  inferInstanceAs (Decidable (_ ∨ _))

instance (left right : Instant) : Decidable (left < right) :=
  inferInstanceAs (Decidable (_ ∨ _))

/-- The instant of a whole second and a fraction, if there is one. -/
def ofParts? (wholeSecond : Int) (fraction : Nat) : Option Instant :=
  if inside : earliest / second ≤ wholeSecond ∧ wholeSecond ≤ latest / second ∧
      IsFractionOf wholeSecond fraction then
    some ⟨wholeSecond, fraction, inside.1, inside.2.1, inside.2.2⟩
  else none

/-- The instant of a number of nanoseconds since the beginning of 1970, if it is in range. Leap
seconds have no numbers of their own. -/
def ofNanos? (nanos : Int) : Option Instant :=
  ofParts? (nanos / second) (nanos % second).toNat

/-- The earliest instant. -/
def first : Instant := ⟨earliest / second, 0, by decide, by decide, by decide⟩

/-- The latest instant that is not in a leap second. -/
def last : Instant := ⟨latest / second, 999999999, by decide, by decide, by decide⟩

/-- The beginning of 1970. -/
def epoch : Instant := ⟨0, 0, by decide, by decide, by decide⟩

/-- Whether the instant lies in what a leap second adds to a minute. -/
def isLeap (instant : Instant) : Bool :=
  1000000000 ≤ instant.fraction

/-- The nanoseconds since the beginning of 1970, without any leap second before this one. -/
def nanos (instant : Instant) : Int :=
  instant.wholeSecond * second + instant.fraction

def dayNumber (instant : Instant) : Int :=
  instant.wholeSecond / 86400

/-- The whole seconds since the day began, a leap second left out. -/
def secondOfDay (instant : Instant) : Nat :=
  (instant.wholeSecond % 86400).toNat

def date (instant : Instant) : Date :=
  Date.ofDayNumber instant.dayNumber

/-- The instant a span later, if it is in range. Within a leap second a span of less than a second
may stay there. Past its end the leap second counts, and a second or more before it the time goes
on as if there had been none. -/
def add? (start : Instant) (span : Span) : Option Instant :=
  let sum := start.nanos + span.nanos
  if start.isLeap then
    let fraction := start.fraction + span.nanos
    if 2 * second ≤ fraction then ofNanos? (sum - second)
    else if span.nanos ≤ -second then ofNanos? sum
    else ofParts? start.wholeSecond fraction.toNat
  else ofNanos? sum

/-- The seconds that leap seconds add to a difference. They are judged by times of day alone: one
where the finish is later in the day than the leap second of the start, and one less the other way
round. -/
def leapSecondsSince (finish start : Instant) : Int :=
  if start.secondOfDay < finish.secondOfDay ∧ start.isLeap then 1
  else if finish.secondOfDay < start.secondOfDay ∧ finish.isLeap then -1
  else 0

theorem leapSecondsSince_bounds (finish start : Instant) :
    -1 ≤ leapSecondsSince finish start ∧ leapSecondsSince finish start ≤ 1 := by
  unfold leapSecondsSince
  split
  · decide
  · split <;> decide

theorem nanos_bounds (instant : Instant) :
    earliest ≤ instant.nanos ∧ instant.nanos ≤ latest + second := by
  have low := instant.notBefore
  have high := instant.notAfter
  have part := instant.isFraction
  simp only [nanos, earliest, latest, second, IsFractionOf] at *
  omega

/-- The span from one instant to another. -/
def since (finish start : Instant) : Span :=
  ⟨finish.nanos - start.nanos + leapSecondsSince finish start * second,
    by
      have leap := leapSecondsSince_bounds finish start
      have low := finish.nanos_bounds
      have high := start.nanos_bounds
      simp only [earliest, latest, widestSpan, second] at *
      omega,
    by
      have leap := leapSecondsSince_bounds finish start
      have high := finish.nanos_bounds
      have low := start.nanos_bounds
      simp only [earliest, latest, widestSpan, second] at *
      omega⟩

/-- Outside of leap seconds instants follow each other as their numbers do. -/
theorem le_iff_nanos_le {left right : Instant} (leftPlain : left.isLeap = false)
    (rightPlain : right.isLeap = false) : left ≤ right ↔ left.nanos ≤ right.nanos := by
  have leftShort : left.fraction < 1000000000 := by simpa [isLeap] using leftPlain
  have rightShort : right.fraction < 1000000000 := by simpa [isLeap] using rightPlain
  change (left.wholeSecond < right.wholeSecond ∨
    (left.wholeSecond = right.wholeSecond ∧ left.fraction ≤ right.fraction)) ↔ _
  simp only [nanos, second]
  omega

/-- Outside of leap seconds a span is added to the number of an instant. -/
theorem add?_eq_ofNanos? {start : Instant} (plain : start.isLeap = false) (span : Span) :
    start.add? span = ofNanos? (start.nanos + span.nanos) := by
  simp [add?, plain]

theorem ofNanos?_nanos {instant : Instant} (h : instant.isLeap = false) :
    ofNanos? instant.nanos = some instant := by
  obtain ⟨wholeSecond, fraction, notBefore, notAfter, isFraction⟩ := instant
  have short : fraction < 1000000000 := by simpa [isLeap] using h
  have whole : (wholeSecond * second + fraction) / second = wholeSecond := by
    simp only [second]
    omega
  have part : ((wholeSecond * second + fraction) % second).toNat = fraction := by
    simp only [second]
    omega
  simp only [ofNanos?, nanos, whole, part, ofParts?]
  rw [dif_pos ⟨notBefore, notAfter, isFraction⟩]

theorem nanos_of_ofNanos? {nanos : Int} {instant : Instant} (h : ofNanos? nanos = some instant) :
    instant.nanos = nanos := by
  unfold ofNanos? ofParts? at h
  split at h
  · rw [← Option.some.inj h]
    simp only [Instant.nanos, second]
    omega
  · cases h

end Instant

namespace Span

/-- The span of a number of nanoseconds, if it is in range. -/
def ofNanos? (nanos : Int) : Option Span :=
  if inside : -widestSpan ≤ nanos ∧ nanos ≤ widestSpan then some ⟨nanos, inside.1, inside.2⟩
  else none

/-- The span of a number of seconds, if it is in range. -/
def ofSeconds? (seconds : Int) : Option Span :=
  ofNanos? (seconds * second)

def day : Span := ⟨86400 * second, by decide, by decide⟩

/-- The span without its sign, if it is not negative. -/
def toLifetime? (span : Span) : Option Lifetime :=
  if 0 ≤ span.nanos then
    some ⟨span.nanos.toNat, by
      have high := span.notAbove
      simp only [widestSpan] at high
      omega⟩
  else none

end Span

namespace Lifetime

/-- The lifetime as a span, if it is in range. -/
def toSpan? (lifetime : Lifetime) : Option Span :=
  Span.ofNanos? lifetime.nanos

def wholeSeconds (lifetime : Lifetime) : Nat :=
  lifetime.nanos / 1000000000

/-- The nanoseconds beyond the whole seconds. -/
def fraction (lifetime : Lifetime) : Nat :=
  lifetime.nanos % 1000000000

/-- The lifetime of a number of nanoseconds, if it is in range. -/
def ofNanos? (nanos : Nat) : Option Lifetime :=
  if inside : nanos < 18446744073709551616000000000 then some ⟨nanos, inside⟩ else none

end Lifetime

end SessionGate.Time
