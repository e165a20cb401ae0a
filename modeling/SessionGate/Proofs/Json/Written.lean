import SessionGate.Json.Reader
import SessionGate.Json.Writer

/-!
# Reading back what was written

The digits of an integer are read back to the integer, and a text without characters that need an
escape is read back to the text. What follows in the input must not go on with the number.
-/

namespace SessionGate

theorem Octets.ofText_ofList (characters : List Char) :
    Octets.ofText (String.ofList characters) = characters.flatMap String.utf8EncodeChar := by
  rw [Octets.ofText, String.toByteArray_ofList, List.utf8Encode, List.data_toByteArray]

theorem exists_ok_of_map {ε α β : Type} {outcome : Except ε α} {change : α → β} {result : β}
    (mapped : outcome.map change = .ok result) :
    ∃ value, outcome = .ok value ∧ change value = result := by
  cases outcome with
  | error error => cases mapped
  | ok value => exact ⟨value, rfl, Except.ok.inj mapped⟩

namespace Json

/-! ## Integers -/

def digitBytes (value : Nat) : Octets :=
  (Decimal.ofNat value).flatMap String.utf8EncodeChar

def digitByte (digit : Nat) : UInt8 :=
  UInt8.ofNat (48 + digit)

private theorem utf8EncodeChar_digitChar :
    ∀ digit < 10, String.utf8EncodeChar (Decimal.digitChar digit) = [digitByte digit] := by
  decide

private theorem isDigit_digitByte : ∀ digit < 10, isDigit (digitByte digit) = true := by
  decide

private theorem digitOf_digitByte : ∀ digit < 10, digitOf (digitByte digit) = digit := by
  decide

private theorem digitByte_eq_zero : ∀ digit < 10, (digitByte digit = 0x30 ↔ digit = 0) := by
  decide

theorem digitBytes_of_lt {value : Nat} (small : value < 10) :
    digitBytes value = [digitByte value] := by
  rw [digitBytes, Decimal.ofNat, if_pos small, List.flatMap_singleton,
    utf8EncodeChar_digitChar value small]

theorem digitBytes_of_le {value : Nat} (large : 10 ≤ value) :
    digitBytes value = digitBytes (value / 10) ++ [digitByte (value % 10)] := by
  rw [digitBytes, Decimal.ofNat, if_neg (by omega), List.flatMap_append, List.flatMap_singleton,
    utf8EncodeChar_digitChar _ (Nat.mod_lt _ (by omega)), digitBytes]

/-- The digits of a number begin with a digit, which is zero only for zero itself, and the others
are taken one after another as long as the number fits. -/
theorem digitBytes_eq_cons (value : Nat) :
    ∃ first rest, digitBytes value = first :: rest ∧ isDigit first = true ∧
      (first = 0x30 ↔ value = 0) ∧
      (value < 18446744073709551616 → ∀ tail,
        takeDigits (digitOf first) 0 (rest ++ tail) = takeDigits value rest.length tail) := by
  induction value using Nat.strongRecOn with
  | ind value ih =>
      by_cases small : value < 10
      · refine ⟨digitByte value, [], digitBytes_of_lt small, isDigit_digitByte value small,
          digitByte_eq_zero value small, ?_⟩
        intro _ tail
        simp [digitOf_digitByte value small]
      · obtain ⟨first, rest, front, digit, zero, taken⟩ := ih (value / 10) (by omega)
        have last : value % 10 < 10 := Nat.mod_lt _ (by omega)
        refine ⟨first, rest ++ [digitByte (value % 10)], ?_, digit, ?_, ?_⟩
        · rw [digitBytes_of_le (by omega), front, List.cons_append]
        · rw [zero]
          omega
        · intro fits tail
          have whole : value / 10 * 10 + value % 10 = value := by omega
          rw [List.append_assoc, taken (by omega), List.singleton_append, takeDigits,
            isDigit_digitByte _ last, digitOf_digitByte _ last, whole]
          simp [fits]

/-- Bytes that neither belong to a number nor go on with it. -/
def EndsNumber : Octets → Prop
  | [] => True
  | byte :: _ => isDigit byte = false ∧ byte ≠ 0x2e ∧ byte ≠ 0x65 ∧ byte ≠ 0x45

theorem takeDigits_of_endsNumber {value count : Nat} {tail : Octets} (ends : EndsNumber tail) :
    takeDigits value count tail = (value, count, tail) := by
  cases tail with
  | nil => rfl
  | cons byte rest => simp [takeDigits, ends.1]

theorem readNumber_digitBytes (isNegative : Bool) {value : Nat} {tail : Octets}
    (fits : value < 18446744073709551616) (ends : EndsNumber tail) :
    readNumber isNegative (digitBytes value ++ tail) =
      .ok (closeInteger isNegative value, tail) := by
  obtain ⟨first, rest, front, digit, zero, taken⟩ := digitBytes_eq_cons value
  have reached : takeDigits (digitOf first) 0 (rest ++ tail) = (value, rest.length, tail) := by
    rw [taken fits, takeDigits_of_endsNumber ends]
  have stops : startsWithDigit tail = false := by
    cases tail with
    | nil => rfl
    | cons byte after => simpa [startsWithDigit] using ends.1
  rw [front, List.cons_append]
  by_cases isZero : first = 0x30
  · have valueZero := zero.mp isZero
    subst value
    have restNil : rest = [] := by
      have single : digitBytes 0 = [digitByte 0] := digitBytes_of_lt (by omega)
      rw [front] at single
      exact (List.cons.inj single).2
    subst isZero restNil
    have zeroDigit : isDigit 0x30 = true := by decide
    cases tail with
    | nil => simp [readNumber, stops, zeroDigit]
    | cons byte after =>
        simp [readNumber, stops, zeroDigit, ends.1, ends.2.1, ends.2.2.1, ends.2.2.2]
  · generalize rest ++ tail = input at reached
    cases tail with
    | nil => simp [readNumber, digit, isZero, reached]
    | cons byte after =>
        simp [readNumber, digit, isZero, reached, ends.1, ends.2.1, ends.2.2.1, ends.2.2.2]

theorem isBlank_of_isDigit {byte : UInt8} (digit : isDigit byte = true) : isBlank byte = false := by
  cases blank : isBlank byte with
  | false => rfl
  | true =>
      simp only [isBlank, Bool.or_eq_true, beq_iff_eq] at blank
      rcases blank with ((rfl | rfl) | rfl) | rfl <;> exact absurd digit (by decide)

theorem skipBlanks_cons {byte : UInt8} {rest : Octets} (visible : isBlank byte = false) :
    skipBlanks (byte :: rest) = byte :: rest := by
  simp [skipBlanks, visible]

def integerBytes (value : Int) : Octets :=
  (Decimal.ofInt value).flatMap String.utf8EncodeChar

/-- An integer of a range within 64 bits is read back from its written form. -/
theorem integer_integerBytes {range : Decimal.IntegerRange} {wanted : String} {value : Int}
    {tail : Octets} (low : range.least ≤ value) (high : value ≤ range.greatest)
    (widest : -9223372036854775808 ≤ range.least ∧ range.greatest < 18446744073709551616)
    (ends : EndsNumber tail) :
    integer range wanted (integerBytes value ++ tail) = .ok (value, tail) := by
  cases value with
  | ofNat value =>
      have written : integerBytes (Int.ofNat value) = digitBytes value := rfl
      have fits : value < 18446744073709551616 := by
        have bound : (value : Int) ≤ range.greatest := high
        omega
      have read := readNumber_digitBytes false fits ends
      obtain ⟨first, rest, front, digit, _, _⟩ := digitBytes_eq_cons value
      have notSign : first ≠ 0x2d := by
        rintro rfl
        exact absurd digit (by decide)
      rw [written]
      rw [front, List.cons_append] at read ⊢
      have inRange : (value : Int) ≤ range.greatest := high
      simp [integer, skipBlanks_cons (isBlank_of_isDigit digit), notSign, digit, read,
        closeInteger, inRange, bind, Except.bind]
  | negSucc value =>
      have written : integerBytes (Int.negSucc value) = 0x2d :: digitBytes (value + 1) := rfl
      have fits : value + 1 ≤ 9223372036854775808 := by
        have bound : range.least ≤ Int.negSucc value := low
        omega
      have small : value + 1 < 18446744073709551616 := by omega
      have read := readNumber_digitBytes true small ends
      have close : closeInteger true (value + 1) = .negative (Int.negSucc value) := by
        rw [closeInteger, if_neg (by simp), if_neg (by omega), Int.negSucc_eq]
        rfl
      have blank : isBlank 0x2d = false := by decide
      rw [close] at read
      rw [written, List.cons_append]
      simp [integer, skipBlanks_cons blank, read, low, bind, Except.bind]

/-! ## Texts -/

/-- Whether a byte stands for itself in a written text. -/
def isPlainText (byte : UInt8) : Bool :=
  byte != 0x22 && byte != 0x5c && !(byte < 0x20)

theorem takeText_of_plain {bytes : Octets} (plain : bytes.all isPlainText = true)
    (reversed rest : Octets) :
    takeText .plain reversed (bytes ++ 0x22 :: rest) = .ok (reversed.reverse ++ bytes, rest) := by
  induction bytes generalizing reversed with
  | nil => simp [takeText]
  | cons byte bytes ih =>
      simp only [List.all_cons, Bool.and_eq_true] at plain
      obtain ⟨plainByte, plainRest⟩ := plain
      simp only [isPlainText, Bool.and_eq_true, bne_iff_ne, ne_eq, Bool.not_eq_true',
        decide_eq_false_iff_not] at plainByte
      rw [List.cons_append, takeText, if_neg plainByte.1.1, if_neg plainByte.1.2,
        if_neg plainByte.2, ih plainRest]
      simp

/-- A text without characters that need an escape is read back from its bytes. -/
theorem readText_of_plain {written : String}
    (plain : (Octets.ofText written).all isPlainText = true)
    (rest : Octets) : readText (Octets.ofText written ++ 0x22 :: rest) = .ok (written, rest) := by
  rw [readText, takeText_of_plain plain]
  simp [bind, Except.bind, Octets.toText?_ofText]

end Json

end SessionGate
