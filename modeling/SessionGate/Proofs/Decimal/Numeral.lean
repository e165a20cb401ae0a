import Mathlib.Data.Nat.Digits.Defs
import Mathlib.Tactic.Ring
import SessionGate.Proofs.Decimal.Integer

/-!
# Numerals

Which texts are read as integers of a range: those of decimal digits, behind a sign or not, whose
value lies in the range. How many zeros stand in front makes no difference.
-/

namespace SessionGate.Decimal

/-- The value of digits by their places, the highest first. -/
def placeValue (characters : List Char) : Nat :=
  Nat.ofDigits 10 (characters.reverse.map fun character => character.toNat - '0'.toNat)

/-- The characters are decimal digits, one at least, and stand for the value. -/
structure IsNumeral (characters : List Char) (value : Nat) : Prop where
  nonempty : characters ≠ []
  digits : ∀ character ∈ characters, '0' ≤ character ∧ character ≤ '9'
  positional : value = placeValue characters

/-- The characters are an integer of the range. Where the range has no negative numbers, a minus
sign is no sign, not even of zero. -/
inductive IntegerRange.IsWritten (range : IntegerRange) : List Char → Int → Prop where
  | bare {digits : List Char} {value : Nat} (numeral : IsNumeral digits value)
      (fits : value ≤ range.greatest) : IsWritten range digits value
  | plus {digits : List Char} {value : Nat} (numeral : IsNumeral digits value)
      (fits : value ≤ range.greatest) : IsWritten range ('+' :: digits) value
  | minus {digits : List Char} {value : Nat} (signed : range.least < 0)
      (numeral : IsNumeral digits value) (fits : range.least ≤ -value) :
      IsWritten range ('-' :: digits) (-value)

theorem placeValue_cons (character : Char) (rest : List Char) :
    placeValue (character :: rest) =
      placeValue rest + 10 ^ rest.length * (character.toNat - '0'.toNat) := by
  rw [placeValue, List.reverse_cons, List.map_append, Nat.ofDigits_append, placeValue]
  simp

theorem digitValue?_eq_some_iff {character : Char} {digit : Nat} :
    digitValue? character = some digit ↔
      ('0' ≤ character ∧ character ≤ '9') ∧ digit = character.toNat - '0'.toNat := by
  unfold digitValue?
  split
  case isTrue inside => simp [inside, eq_comm]
  case isFalse outside => simp [outside]

theorem digitValue?_eq_none_iff {character : Char} :
    digitValue? character = none ↔ ¬ ('0' ≤ character ∧ character ≤ '9') := by
  unfold digitValue?
  split <;> simp_all

namespace IntegerRange

variable {range : IntegerRange} {value start : Int} {characters : List Char}

/-- Each digit leads upwards, so nothing that leaves the range on the way comes back to it. -/
theorem growUp_eq_ok_iff (notNegative : 0 ≤ start) (fits : start ≤ range.greatest) :
    range.growUp start characters = .ok value ↔
      (∀ character ∈ characters, '0' ≤ character ∧ character ≤ '9') ∧
        value = start * 10 ^ characters.length + placeValue characters ∧
        value ≤ range.greatest := by
  induction characters generalizing start with
  | nil =>
      simp only [growUp, Except.ok.injEq, placeValue]
      simp
      omega
  | cons character rest ih =>
      rw [growUp, List.forall_mem_cons]
      cases read : digitValue? character with
      | none => simp [digitValue?_eq_none_iff.mp read]
      | some digit =>
          obtain ⟨isDigit, size⟩ := digitValue?_eq_some_iff.mp read
          have whole : start * 10 ^ (rest.length + 1) + placeValue (character :: rest) =
              (start * 10 + digit) * 10 ^ rest.length + placeValue rest := by
            rw [placeValue_cons, ← size]
            push_cast
            ring
          dsimp only
          rw [List.length_cons, whole]
          split
          case isFalse within =>
            rw [ih (by omega) (by omega), and_iff_right isDigit]
          case isTrue beyond =>
            -- What follows does not make the number smaller.
            have grows : start * 10 + digit ≤ (start * 10 + digit) * 10 ^ rest.length :=
              le_mul_of_one_le_right (by omega) (one_le_pow₀ (by decide))
            simp only [reduceCtorEq, false_iff]
            rintro ⟨-, rfl, small⟩
            omega

/-- The range on the other side of zero. -/
def mirrored (range : IntegerRange) : IntegerRange :=
  ⟨-range.greatest, -range.least⟩

theorem growDown_eq_ok_iff_growUp :
    range.growDown start characters = .ok value ↔
      range.mirrored.growUp (-start) characters = .ok (-value) := by
  induction characters generalizing start with
  | nil => simp [growDown, growUp]
  | cons character rest ih =>
      rw [growDown, growUp]
      cases digitValue? character with
      | none => simp
      | some digit =>
          have next : -start * 10 + digit = -(start * 10 - digit) := by ring
          have outside : -range.least < -(start * 10 - digit) ↔ start * 10 - digit < range.least :=
            neg_lt_neg_iff
          dsimp only [mirrored] at ih ⊢
          rw [next]
          simp only [outside]
          split
          case isTrue => simp
          case isFalse => exact ih

theorem growDown_eq_ok_iff (notPositive : start ≤ 0) (fits : range.least ≤ start) :
    range.growDown start characters = .ok value ↔
      (∀ character ∈ characters, '0' ≤ character ∧ character ≤ '9') ∧
        value = start * 10 ^ characters.length - placeValue characters ∧
        range.least ≤ value := by
  rw [growDown_eq_ok_iff_growUp, growUp_eq_ok_iff (by omega) (by simpa [mirrored] using fits)]
  refine and_congr_right fun _ => and_congr ?_ neg_le_neg_iff
  rw [neg_mul]
  omega

theorem growUp_zero_eq_ok_iff (nonempty : characters ≠ []) (high : 0 ≤ range.greatest) :
    range.growUp 0 characters = .ok value ↔
      ∃ number : Nat, IsNumeral characters number ∧ value = number ∧ number ≤ range.greatest := by
  rw [growUp_eq_ok_iff (Int.le_refl 0) high, zero_mul, zero_add]
  constructor
  · rintro ⟨digits, rfl, fits⟩
    exact ⟨placeValue characters, ⟨nonempty, digits, rfl⟩, rfl, fits⟩
  · rintro ⟨_, ⟨-, digits, rfl⟩, rfl, fits⟩
    exact ⟨digits, rfl, fits⟩

theorem growDown_zero_eq_ok_iff (nonempty : characters ≠ []) (low : range.least ≤ 0) :
    range.growDown 0 characters = .ok value ↔
      ∃ number : Nat, IsNumeral characters number ∧ value = -number ∧ range.least ≤ -number := by
  rw [growDown_eq_ok_iff (Int.le_refl 0) low, zero_mul, zero_sub]
  constructor
  · rintro ⟨digits, rfl, fits⟩
    exact ⟨placeValue characters, ⟨nonempty, digits, rfl⟩, rfl, fits⟩
  · rintro ⟨_, ⟨-, digits, rfl⟩, rfl, fits⟩
    exact ⟨digits, rfl, fits⟩

/-- A sign is no digit. -/
theorem not_isNumeral_of_sign {sign : Char} (isSign : sign = '+' ∨ sign = '-') {number : Nat} :
    ¬ IsNumeral (sign :: characters) number := by
  intro numeral
  have isDigit := numeral.digits sign List.mem_cons_self
  rcases isSign with rfl | rfl <;> exact absurd isDigit (by decide)

theorem isWritten_plus_iff :
    range.IsWritten ('+' :: characters) value ↔
      ∃ number : Nat, IsNumeral characters number ∧ value = number ∧ number ≤ range.greatest := by
  constructor
  · intro written
    generalize whole : '+' :: characters = text at written
    cases written with
    | bare numeral fits => exact absurd (whole ▸ numeral) (not_isNumeral_of_sign (.inl rfl))
    | plus numeral fits =>
        obtain ⟨-, rfl⟩ := List.cons.inj whole
        exact ⟨_, numeral, rfl, fits⟩
    | minus signed numeral fits => cases whole
  · rintro ⟨number, numeral, rfl, fits⟩
    exact .plus numeral fits

theorem isWritten_minus_iff :
    range.IsWritten ('-' :: characters) value ↔ range.least < 0 ∧
      ∃ number : Nat, IsNumeral characters number ∧ value = -number ∧ range.least ≤ -number := by
  constructor
  · intro written
    generalize whole : '-' :: characters = text at written
    cases written with
    | bare numeral fits => exact absurd (whole ▸ numeral) (not_isNumeral_of_sign (.inr rfl))
    | plus numeral fits => cases whole
    | minus signed numeral fits =>
        obtain ⟨-, rfl⟩ := List.cons.inj whole
        exact ⟨signed, _, numeral, rfl, fits⟩
  · rintro ⟨signed, number, numeral, rfl, fits⟩
    exact .minus signed numeral fits

theorem isWritten_bare_iff (noPlus : ∀ rest, characters ≠ '+' :: rest)
    (noMinus : ∀ rest, characters ≠ '-' :: rest) :
    range.IsWritten characters value ↔
      ∃ number : Nat, IsNumeral characters number ∧ value = number ∧ number ≤ range.greatest := by
  constructor
  · intro written
    cases written with
    | bare numeral fits => exact ⟨_, numeral, rfl, fits⟩
    | plus numeral fits => exact absurd rfl (noPlus _)
    | minus signed numeral fits => exact absurd rfl (noMinus _)
  · rintro ⟨number, numeral, rfl, fits⟩
    exact .bare numeral fits

/-- A text is read as an integer exactly where it is one of the range. -/
theorem read_eq_ok_iff (low : range.least ≤ 0) (high : 0 ≤ range.greatest) {text : String} :
    range.read text = .ok value ↔ range.IsWritten text.toList value := by
  have unsaid {number : Nat} : ¬ IsNumeral [] number := fun numeral => numeral.nonempty rfl
  rw [read]
  split
  case h_1 nothing => simp [nothing, isWritten_bare_iff, unsaid]
  case h_2 sign => simp [sign, isWritten_plus_iff, unsaid]
  case h_3 sign => simp [sign, isWritten_minus_iff, unsaid]
  case h_4 digits _ text =>
    rw [text, isWritten_plus_iff]
    exact growUp_zero_eq_ok_iff (by simp_all) high
  case h_5 digits _ text =>
    rw [text, isWritten_minus_iff]
    split
    case isTrue signed =>
      rw [and_iff_right signed]
      exact growDown_zero_eq_ok_iff (by simp_all) low
    case isFalse unsigned => simp [unsigned]
  case h_6 =>
    rw [isWritten_bare_iff (by simp_all) (by simp_all)]
    exact growUp_zero_eq_ok_iff (by simp_all) high

/-- What is written for an integer of the range is read back. -/
theorem read_text (low : range.least ≤ value) (high : value ≤ range.greatest) :
    range.read (text value) = .ok value := by
  have unfilled (number : Nat) : padded 0 number = ofNat number := by
    rw [padded, Nat.zero_sub, List.replicate_zero, List.nil_append]
  cases value with
  | ofNat number =>
      rw [text, ofInt, ← unfilled]
      exact read_padded high 0
  | negSucc number =>
      rw [text, ofInt, ← unfilled]
      exact read_minus_padded (by omega) (by omega) 0

theorem IsWritten.inRange (low : range.least ≤ 0) (high : 0 ≤ range.greatest)
    (written : range.IsWritten characters value) :
    range.least ≤ value ∧ value ≤ range.greatest := by
  cases written with
  | bare numeral fits | plus numeral fits => omega
  | minus signed numeral fits => omega

/-- An integer that can be written can be written in the usual way. -/
theorem IsWritten.text (low : range.least ≤ 0) (high : 0 ≤ range.greatest)
    (written : range.IsWritten characters value) :
    range.IsWritten (Decimal.text value).toList value := by
  obtain ⟨notSmaller, notGreater⟩ := written.inRange low high
  exact (read_eq_ok_iff low high).mp (read_text notSmaller notGreater)

end IntegerRange

end SessionGate.Decimal
