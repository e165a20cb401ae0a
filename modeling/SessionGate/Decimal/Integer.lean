/-!
# Integers in decimal

Integers are written with the fewest digits, a minus sign before negative ones. They are read
from a text of digits with an optional sign; a range that starts at zero admits no minus sign.
Reading stops at the first fault: a character that is no digit, or a digit that leaves the range.
-/

namespace SessionGate.Decimal

/-- The character of a digit below ten. -/
def digitChar (digit : Nat) : Char :=
  Char.ofNat (48 + digit)

/-- The digits of a natural number, highest first. -/
def ofNat (value : Nat) : List Char :=
  if value < 10 then [digitChar value]
  else ofNat (value / 10) ++ [digitChar (value % 10)]

def ofInt : Int → List Char
  | .ofNat value => ofNat value
  | .negSucc value => '-' :: ofNat (value + 1)

def text (value : Int) : String :=
  String.ofList (ofInt value)

/-- The digits of a number below a power of ten, filled with zeros on the left. -/
def padded (width value : Nat) : List Char :=
  let digits := ofNat value
  List.replicate (width - digits.length) '0' ++ digits

def digitValue? (character : Char) : Option Nat :=
  if '0' ≤ character ∧ character ≤ '9' then some (character.toNat - 48) else none

/-- Why a text is not an integer of a range. -/
inductive IntegerError where
  | empty
  | invalidDigit
  | tooLarge
  | tooSmall
  deriving DecidableEq, Repr

def IntegerError.message : IntegerError → String
  | .empty => "cannot parse integer from empty string"
  | .invalidDigit => "invalid digit found in string"
  | .tooLarge => "number too large to fit in target type"
  | .tooSmall => "number too small to fit in target type"

/-- A range of integers with both ends included. -/
structure IntegerRange where
  least : Int
  greatest : Int
  deriving DecidableEq, Repr

namespace IntegerRange

def signed64 : IntegerRange := ⟨-9223372036854775808, 9223372036854775807⟩

def unsigned32 : IntegerRange := ⟨0, 4294967295⟩

def unsigned64 : IntegerRange := ⟨0, 18446744073709551615⟩

/-- Append digits to a value, upwards from zero. -/
def growUp (range : IntegerRange) : Int → List Char → Except IntegerError Int
  | value, [] => .ok value
  | value, character :: rest =>
      match digitValue? character with
      | none => .error .invalidDigit
      | some digit =>
          let next := value * 10 + digit
          if range.greatest < next then .error .tooLarge else range.growUp next rest

/-- Append digits to a value, downwards from zero. -/
def growDown (range : IntegerRange) : Int → List Char → Except IntegerError Int
  | value, [] => .ok value
  | value, character :: rest =>
      match digitValue? character with
      | none => .error .invalidDigit
      | some digit =>
          let next := value * 10 - digit
          if next < range.least then .error .tooSmall else range.growDown next rest

/-- Read an integer of the range. A sign alone is no number, and a minus sign is a sign only
where the range has negative numbers. -/
def read (range : IntegerRange) (text : String) : Except IntegerError Int :=
  match text.toList with
  | [] => .error .empty
  | ['+'] | ['-'] => .error .invalidDigit
  | '+' :: digits => range.growUp 0 digits
  | '-' :: digits =>
      if range.least < 0 then range.growDown 0 digits else .error .invalidDigit
  | digits => range.growUp 0 digits

end IntegerRange

end SessionGate.Decimal
