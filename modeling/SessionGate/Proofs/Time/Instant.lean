import SessionGate.Time.Instant

/-!
# Sums of instants and spans

The order of instants is linear. Outside of leap seconds the span from one instant to another leads
from the first to the second, and no sum lies in a leap second. From within a leap second a positive
span still leads to a later instant, but the span to a sum need not lead to that sum.
-/

namespace SessionGate.Time

namespace Instant

variable {start finish : Instant} {span : Span} {lifetime : Lifetime}

theorem not_le : ¬ finish ≤ start ↔ start < finish := by
  change ¬ (finish.wholeSecond < start.wholeSecond ∨
      (finish.wholeSecond = start.wholeSecond ∧ finish.fraction ≤ start.fraction)) ↔
    (start.wholeSecond < finish.wholeSecond ∨
      (start.wholeSecond = finish.wholeSecond ∧ start.fraction < finish.fraction))
  omega

protected theorem le_refl (instant : Instant) : instant ≤ instant :=
  .inr ⟨rfl, Nat.le_refl _⟩

protected theorem le_trans {first second third : Instant} (before : first ≤ second)
    (after : second ≤ third) : first ≤ third := by
  change first.wholeSecond < third.wholeSecond ∨
    (first.wholeSecond = third.wholeSecond ∧ first.fraction ≤ third.fraction)
  rcases before with before | before <;> rcases after with after | after <;> omega

protected theorem lt_of_lt_of_le {first second third : Instant} (before : first < second)
    (after : second ≤ third) : first < third :=
  not_le.mp fun back => not_le.mpr before (Instant.le_trans after back)

theorem isLeap_of_ofNanos? {number : Int} (found : ofNanos? number = some finish) :
    finish.isLeap = false := by
  unfold ofNanos? ofParts? at found
  split at found
  · have short : (number % second).toNat < 1000000000 := by
      simp only [second]
      omega
    rw [← Option.some.inj found]
    simpa [isLeap] using short
  · cases found

/-- No number above the earliest one is out of range but those above the latest. -/
theorem exists_ofNanos?_iff {number : Int} (low : earliest ≤ number) :
    (∃ instant, ofNanos? number = some instant) ↔ number ≤ latest := by
  have isFraction : IsFractionOf (number / second) (number % second).toNat := by
    left
    simp only [second]
    omega
  have above : earliest / second ≤ number / second :=
    Int.ediv_le_ediv (by decide) low
  have below : number / second ≤ latest / second ↔ number ≤ latest := by
    simp only [second, latest]
    omega
  unfold ofNanos? ofParts?
  constructor
  · rintro ⟨instant, found⟩
    split at found
    · rename_i inside
      exact below.mp inside.2.1
    · cases found
  · intro high
    rw [dif_pos ⟨above, below.mpr high, isFraction⟩]
    exact ⟨_, rfl⟩

/-- A sum from an instant outside of leap seconds lies outside of them. -/
theorem isLeap_of_add? (plain : start.isLeap = false) (sum : start.add? span = some finish) :
    finish.isLeap = false := by
  rw [add?_eq_ofNanos? plain] at sum
  exact isLeap_of_ofNanos? sum

theorem nanos_since (startPlain : start.isLeap = false) (finishPlain : finish.isLeap = false) :
    (finish.since start).nanos = finish.nanos - start.nanos := by
  simp [since, leapSecondsSince, startPlain, finishPlain]

/-- The span between two instants leads from the first to the second. -/
theorem add?_since (startPlain : start.isLeap = false) (finishPlain : finish.isLeap = false) :
    start.add? (finish.since start) = some finish := by
  rw [add?_eq_ofNanos? startPlain, nanos_since startPlain finishPlain]
  have sum : start.nanos + (finish.nanos - start.nanos) = finish.nanos := by omega
  rw [sum, ofNanos?_nanos finishPlain]

/-- Outside of leap seconds the difference from an instant to its sum with a span is the span. -/
theorem nanos_since_of_add? (plain : start.isLeap = false) (sum : start.add? span = some finish) :
    (finish.since start).nanos = span.nanos := by
  have number : finish.nanos = start.nanos + span.nanos := by
    rw [add?_eq_ofNanos? plain] at sum
    exact nanos_of_ofNanos? sum
  rw [nanos_since plain (isLeap_of_add? plain sum), number]
  omega

/-- The numbers of nanoseconds that instants outside of leap seconds have. -/
def InRange (number : Int) : Prop :=
  earliest ≤ number ∧ number ≤ latest

instance (number : Int) : Decidable (InRange number) :=
  inferInstanceAs (Decidable (_ ∧ _))

theorem inRange_of_ofNanos? {number : Int} (found : ofNanos? number = some finish) :
    InRange number := by
  have same := nanos_of_ofNanos? found
  have plain := isLeap_of_ofNanos? found
  have low := finish.notBefore
  have high := finish.notAfter
  simp only [isLeap, decide_eq_false_iff_not] at plain
  simp only [InRange, nanos, second, earliest, latest] at *
  omega

/-- Outside of leap seconds a sum exists exactly where its number is in range. -/
theorem exists_add?_iff (plain : start.isLeap = false) :
    (∃ finish, start.add? span = some finish) ↔ InRange (start.nanos + span.nanos) := by
  rw [add?_eq_ofNanos? plain]
  constructor
  · rintro ⟨finish, sum⟩
    exact inRange_of_ofNanos? sum
  · rintro ⟨low, high⟩
    exact (exists_ofNanos?_iff low).mpr high

/-! ## Leap seconds -/

theorem eq_of_ofParts? {wholeSecond : Int} {fraction : Nat}
    (found : ofParts? wholeSecond fraction = some finish) :
    finish.wholeSecond = wholeSecond ∧ finish.fraction = fraction := by
  unfold ofParts? at found
  split at found
  · rw [← Option.some.inj found]
    exact ⟨rfl, rfl⟩
  · cases found

theorem exists_ofParts? {wholeSecond : Int} {fraction : Nat} (instant : Instant)
    (same : instant.wholeSecond = wholeSecond) (isFraction : IsFractionOf wholeSecond fraction) :
    ∃ found, ofParts? wholeSecond fraction = some found := by
  unfold ofParts?
  rw [dif_pos ⟨same ▸ instant.notBefore, same ▸ instant.notAfter, isFraction⟩]
  exact ⟨_, rfl⟩

/-- A span is added to the fraction of an instant in a leap second. -/
theorem add?_of_isLeap (leap : start.isLeap = true) (span : Span) :
    start.add? span =
      if 2 * second ≤ start.fraction + span.nanos then
        ofNanos? (start.nanos + span.nanos - second)
      else if span.nanos ≤ -second then ofNanos? (start.nanos + span.nanos)
      else ofParts? start.wholeSecond (start.fraction + span.nanos).toNat := by
  simp only [add?, leap, if_true]

/-- A sum either stays in the second of the instant or lies outside of leap seconds. -/
theorem isLeap_or_wholeSecond_of_add? (sum : start.add? span = some finish) :
    finish.isLeap = false ∨ finish.wholeSecond = start.wholeSecond := by
  cases leap : start.isLeap with
  | false => exact .inl (isLeap_of_add? leap sum)
  | true =>
      rw [add?_of_isLeap leap] at sum
      split at sum
      · exact .inl (isLeap_of_ofNanos? sum)
      · split at sum
        · exact .inl (isLeap_of_ofNanos? sum)
        · exact .inr (eq_of_ofParts? sum).1

/-- A positive span leads to a later instant, also from within a leap second. -/
theorem lt_of_add? (sum : start.add? span = some finish) (positive : 0 < span.nanos) :
    start < finish := by
  change start.wholeSecond < finish.wholeSecond ∨
    (start.wholeSecond = finish.wholeSecond ∧ start.fraction < finish.fraction)
  cases leap : start.isLeap with
  | false =>
      have plain := isLeap_of_add? leap sum
      rw [add?_eq_ofNanos? leap] at sum
      have number := nanos_of_ofNanos? sum
      simp only [isLeap, decide_eq_false_iff_not] at leap plain
      simp only [nanos, second] at number
      omega
  | true =>
      have within := start.isFraction
      rw [add?_of_isLeap leap] at sum
      simp only [IsFractionOf] at within
      split at sum
      · have plain := isLeap_of_ofNanos? sum
        have number := nanos_of_ofNanos? sum
        simp only [isLeap, decide_eq_false_iff_not] at plain
        simp only [nanos, second] at *
        omega
      · rw [if_neg (by simp only [second]; omega)] at sum
        obtain ⟨whole, part⟩ := eq_of_ofParts? sum
        omega

/-- Within one second the time is that of the fractions. -/
theorem leapSecondsSince_of_wholeSecond (same : finish.wholeSecond = start.wholeSecond) :
    leapSecondsSince finish start = 0 := by
  simp [leapSecondsSince, secondOfDay, same]

/-- The time from an instant to a sum that does not come before it can be added to the instant.
From within a leap second it need not lead to the same sum. -/
theorem exists_add?_since (sum : start.add? span = some finish)
    (lasts : 0 ≤ (finish.since start).nanos) :
    ∃ later, start.add? (finish.since start) = some later := by
  cases leap : start.isLeap with
  | false => exact ⟨finish, add?_since leap (isLeap_of_add? leap sum)⟩
  | true =>
      have within := start.isFraction
      rw [add?_of_isLeap leap]
      split
      case isTrue past =>
        -- The leap second adds to the time only where the sum has left it.
        have below : start.nanos + (finish.since start).nanos - second ≤ latest := by
          have counted := leapSecondsSince_bounds finish start
          have high := finish.notAfter
          have finishWithin := finish.isFraction
          rcases isLeap_or_wholeSecond_of_add? sum with plain | same
          · simp only [isLeap, decide_eq_false_iff_not] at plain
            simp only [since, nanos, second, latest] at *
            omega
          · have none := leapSecondsSince_of_wholeSecond same
            simp only [since, nanos, second, latest, IsFractionOf] at *
            omega
        have above : earliest ≤ start.nanos + (finish.since start).nanos - second := by
          have low := start.notBefore
          simp only [nanos, second, earliest] at *
          omega
        exact (exists_ofNanos?_iff above).mpr below
      case isFalse stays =>
        rw [if_neg (by simp only [second]; omega)]
        apply exists_ofParts? start rfl
        simp only [isLeap, decide_eq_true_eq] at leap
        simp only [IsFractionOf, second] at *
        omega

/-- Where a span leads from within a leap second: out of it at either end, or to a place in its
whole second. -/
theorem of_add?_of_isLeap (leap : start.isLeap = true) (sum : start.add? span = some finish) :
    (start.fraction + span.nanos < 2 * second ∧ span.nanos ≤ -second ∧
        finish.isLeap = false ∧ finish.nanos = start.nanos + span.nanos) ∨
      (start.fraction + span.nanos < 2 * second ∧ -second < span.nanos ∧
        finish.wholeSecond = start.wholeSecond ∧ finish.fraction = start.fraction + span.nanos) ∨
      (2 * second ≤ start.fraction + span.nanos ∧
        finish.isLeap = false ∧ finish.nanos = start.nanos + span.nanos - second) := by
  rw [add?_of_isLeap leap] at sum
  split at sum
  case isTrue past =>
    exact .inr (.inr ⟨past, isLeap_of_ofNanos? sum, nanos_of_ofNanos? sum⟩)
  case isFalse within =>
    have short : start.fraction + span.nanos < 2 * second := Int.not_le.mp within
    split at sum
    case isTrue before =>
      exact .inl ⟨short, before, isLeap_of_ofNanos? sum, nanos_of_ofNanos? sum⟩
    case isFalse after =>
      obtain ⟨whole, part⟩ := eq_of_ofParts? sum
      simp only [isLeap, decide_eq_true_eq] at leap
      refine .inr (.inl ⟨short, Int.not_le.mp after, whole, ?_⟩)
      simp only [second] at *
      omega

/-- A longer span leads no less far, also from within a leap second. -/
theorem le_of_add? {longer : Span} (sum : start.add? span = some finish)
    (further : start.add? longer = some later) (order : span.nanos ≤ longer.nanos) :
    finish ≤ later := by
  change finish.wholeSecond < later.wholeSecond ∨
    (finish.wholeSecond = later.wholeSecond ∧ finish.fraction ≤ later.fraction)
  cases leap : start.isLeap with
  | false =>
      have plain := isLeap_of_add? leap sum
      have laterPlain := isLeap_of_add? leap further
      rw [add?_eq_ofNanos? leap] at sum further
      have number := nanos_of_ofNanos? sum
      have laterNumber := nanos_of_ofNanos? further
      simp only [isLeap, decide_eq_false_iff_not] at plain laterPlain
      simp only [nanos, second] at number laterNumber
      omega
  | true =>
      have within := start.isFraction
      have places := of_add?_of_isLeap leap sum
      have laterPlaces := of_add?_of_isLeap leap further
      simp only [isLeap, decide_eq_true_eq, decide_eq_false_iff_not] at leap places laterPlaces
      simp only [IsFractionOf, nanos, second] at within places laterPlaces
      omega

/-- The time to a sum, added to the instant again, leads no further than the sum. -/
theorem le_of_add?_since (sum : start.add? span = some finish)
    (lasts : 0 ≤ (finish.since start).nanos)
    (again : start.add? (finish.since start) = some later) : later ≤ finish := by
  cases leap : start.isLeap with
  | false =>
      rw [add?_since leap (isLeap_of_add? leap sum)] at again
      rw [← Option.some.inj again]
      exact Instant.le_refl _
  | true =>
      refine le_of_add? again sum ?_
      have counted := leapSecondsSince_bounds finish start
      have within := start.isFraction
      have finishWithin := finish.isFraction
      have none := @leapSecondsSince_of_wholeSecond start finish
      have places := of_add?_of_isLeap leap sum
      simp only [isLeap, decide_eq_true_eq, decide_eq_false_iff_not] at leap places
      simp only [since, nanos, second, IsFractionOf] at *
      omega

/-- Whether whole seconds can be added depends on whole seconds alone, also within a leap second. -/
theorem exists_add?_iff_of_seconds {seconds : Int} (positive : 0 < seconds)
    (length : span.nanos = seconds * second) :
    (∃ finish, start.add? span = some finish) ↔
      start.wholeSecond + seconds ≤ Instant.last.wholeSecond := by
  have low := start.notBefore
  have within := start.isFraction
  cases leap : start.isLeap with
  | false =>
      rw [exists_add?_iff leap]
      simp only [isLeap, decide_eq_false_iff_not] at leap
      simp only [InRange, nanos, length, Instant.last, second, earliest, latest] at *
      omega
  | true =>
      simp only [isLeap, decide_eq_true_eq] at leap
      rw [add?_of_isLeap (by simpa [isLeap] using leap), length, if_pos, exists_ofNanos?_iff]
      · simp only [IsFractionOf, nanos, Instant.last, second, earliest, latest] at *
        omega
      · simp only [IsFractionOf, nanos, second, earliest] at *
        omega
      · simp only [second]
        omega

/-- The time to a sum is not negative where a second at least was added. -/
theorem nanos_since_nonneg (sum : start.add? span = some finish) (long : second ≤ span.nanos) :
    0 ≤ (finish.since start).nanos := by
  cases leap : start.isLeap with
  | false =>
      rw [nanos_since_of_add? leap sum]
      simp only [second] at long
      omega
  | true =>
      rcases of_add?_of_isLeap leap sum with ⟨-, short, -⟩ | ⟨short, -, -⟩ | ⟨-, plain, number⟩
      · simp only [second] at *
        omega
      · simp only [isLeap, decide_eq_true_eq] at leap
        simp only [second] at *
        omega
      · have forwards : 0 ≤ leapSecondsSince finish start := by
          simp only [leapSecondsSince, plain, Bool.false_eq_true, and_false, if_false]
          split <;> decide
        simp only [since, second] at *
        omega

end Instant

/-- A span that is not negative is the span of its lifetime. -/
theorem Span.toSpan?_of_toLifetime? {span : Span} {lifetime : Lifetime}
    (positive : span.toLifetime? = some lifetime) : lifetime.toSpan? = some span := by
  obtain ⟨nanos, notBelow, notAbove⟩ := span
  unfold Span.toLifetime? at positive
  split at positive
  · rename_i notNegative
    rw [← Option.some.inj positive]
    have same : ((nanos.toNat : Nat) : Int) = nanos := Int.toNat_of_nonneg notNegative
    simp only [Lifetime.toSpan?, Span.ofNanos?, same]
    rw [dif_pos ⟨notBelow, notAbove⟩]
  · cases positive

theorem Lifetime.nanos_of_toSpan? {lifetime : Lifetime} {span : Span}
    (found : lifetime.toSpan? = some span) : span.nanos = lifetime.nanos := by
  rw [toSpan?, Span.ofNanos?] at found
  split at found
  · rw [← Option.some.inj found]
  · cases found

theorem Span.toLifetime?_eq_some_iff {span : Span} {lifetime : Lifetime} :
    span.toLifetime? = some lifetime ↔ (lifetime.nanos : Int) = span.nanos := by
  obtain ⟨number, bounded⟩ := lifetime
  unfold Span.toLifetime?
  split
  · rw [Option.some.injEq, Lifetime.mk.injEq]
    dsimp only
    omega
  · simp only [reduceCtorEq, false_iff]
    omega

theorem Span.toLifetime?_eq_none_iff {span : Span} :
    span.toLifetime? = none ↔ span.nanos < 0 := by
  unfold Span.toLifetime?
  split <;> simp only [reduceCtorEq, false_iff, true_iff] <;> omega

end SessionGate.Time
