import SessionGate.Proofs.Store.ExpiringMap
import SessionGate.Proofs.Time.Instant

/-!
# Terms

An entry is set for a term, which begins when it is set. Outside of leap seconds a term is told by
numbers: it ends where they add up, and it is refused where they leave the range of instants.
-/

namespace SessionGate

open Time

/-- A stretch of time from an instant on: for a lifetime, or for ever. -/
structure Term where
  start : Instant
  lifetime : Option Lifetime

namespace Term

/-- The term ends no later than instants go. -/
def InRange (term : Term) : Prop :=
  ∀ length ∈ term.lifetime, term.start.nanos + length.nanos ≤ latest

instance (term : Term) : Decidable term.InRange :=
  inferInstanceAs (Decidable (∀ length ∈ term.lifetime, _))

/-- The term has not come to its end. -/
def Runs (term : Term) (now : Instant) : Prop :=
  ∀ length ∈ term.lifetime, now.nanos < term.start.nanos + length.nanos

instance (term : Term) (now : Instant) : Decidable (term.Runs now) :=
  inferInstanceAs (Decidable (∀ length ∈ term.lifetime, _))

end Term

namespace ExpiringMap

variable {start now : Instant} {length : Lifetime} {expires : Option Instant} {term : Term}

/-- An entry that is set for some time has an end, which lies that span away. -/
theorem exists_add?_of_expiry (set : expiry start (some length) = .ok expires) :
    ∃ (span : Span) (finish : Instant), span.nanos = length.nanos ∧
      start.add? span = some finish ∧ expires = some finish := by
  rw [expiry] at set
  split at set
  · cases set
  · rename_i span found
    split at set
    · cases set
    · rename_i finish sum
      exact ⟨span, finish, Lifetime.nanos_of_toSpan? found, sum, (Except.ok.inj set).symm⟩

/-- Outside of leap seconds an entry expires at the instant whose number is the sum. -/
theorem expiry_some_eq_ok_iff (plain : start.isLeap = false) :
    expiry start (some length) = .ok expires ↔
      ∃ finish, Instant.ofNanos? (start.nanos + length.nanos) = some finish ∧
        expires = some finish := by
  have low := start.nanos_bounds.1
  by_cases narrow : -widestSpan ≤ (length.nanos : Int) ∧ (length.nanos : Int) ≤ widestSpan
  · have span : length.toSpan? = some ⟨length.nanos, narrow.1, narrow.2⟩ := dif_pos narrow
    simp only [expiry, span, Instant.add?_eq_ofNanos? plain]
    cases Instant.ofNanos? (start.nanos + length.nanos) with
    | none => simp
    | some finish => simp [eq_comm]
  · -- A lifetime that is too long for a span leads beyond the last instant from anywhere.
    have span : length.toSpan? = none := dif_neg narrow
    have beyond : ¬ ∃ finish, Instant.ofNanos? (start.nanos + length.nanos) = some finish := by
      rw [Instant.exists_ofNanos?_iff (by omega)]
      simp only [widestSpan, earliest, latest] at *
      omega
    rw [expiry, span]
    constructor
    · rintro ⟨⟩
    · rintro ⟨finish, found, -⟩
      exact absurd ⟨finish, found⟩ beyond

theorem exists_expiry_iff {lifetime : Option Lifetime} (plain : start.isLeap = false) :
    (∃ expires, expiry start lifetime = .ok expires) ↔ Term.InRange ⟨start, lifetime⟩ := by
  cases lifetime with
  | none => exact ⟨fun _ => nofun, fun _ => ⟨none, rfl⟩⟩
  | some length =>
      have low := start.nanos_bounds.1
      have reach : (∃ finish, Instant.ofNanos? (start.nanos + length.nanos) = some finish) ↔
          start.nanos + length.nanos ≤ latest := Instant.exists_ofNanos?_iff (by omega)
      simp only [expiry_some_eq_ok_iff plain]
      constructor
      · rintro ⟨expires, finish, found, -⟩ other same
        rw [← Option.some.inj same]
        exact reach.mp ⟨finish, found⟩
      · intro inRange
        obtain ⟨finish, found⟩ := reach.mpr (inRange length rfl)
        exact ⟨some finish, finish, found, rfl⟩

/-- An entry expires when its term comes to its end. -/
theorem isExpired_eq_false_iff {entry : Entry} (plain : term.start.isLeap = false)
    (set : expiry term.start term.lifetime = .ok entry.expires) (nowPlain : now.isLeap = false) :
    entry.isExpired now = false ↔ term.Runs now := by
  obtain ⟨start, lifetime⟩ := term
  obtain ⟨value, expires⟩ := entry
  cases lifetime with
  | none =>
      obtain rfl : none = expires := Except.ok.inj set
      exact ⟨fun _ => nofun, fun _ => rfl⟩
  | some length =>
      obtain ⟨finish, found, rfl⟩ := (expiry_some_eq_ok_iff plain).mp set
      have order : finish ≤ now ↔ start.nanos + length.nanos ≤ now.nanos := by
        rw [Instant.le_iff_nanos_le (Instant.isLeap_of_ofNanos? found) nowPlain,
          Instant.nanos_of_ofNanos? found]
      simp [Entry.isExpired, Term.Runs, order]

end ExpiringMap

end SessionGate
