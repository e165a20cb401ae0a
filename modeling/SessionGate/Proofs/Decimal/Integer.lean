import Mathlib.Algebra.Group.Nat.Defs
import SessionGate.Decimal.Integer

/-!
# Reading integers back

An integer of a range is read back from its digits, whether they have been filled up with zeros or
not, and from its digits behind a sign.
-/

namespace SessionGate.Decimal

theorem digitValue?_digitChar : ∀ digit < 10, digitValue? (digitChar digit) = some digit := by
  decide

theorem ofNat_of_lt {value : Nat} (small : value < 10) : ofNat value = [digitChar value] := by
  rw [ofNat, if_pos small]

theorem ofNat_of_le {value : Nat} (large : 10 ≤ value) :
    ofNat value = ofNat (value / 10) ++ [digitChar (value % 10)] := by
  rw [ofNat, if_neg (Nat.not_lt.mpr large)]

theorem mem_ofNat {value : Nat} {character : Char} (member : character ∈ ofNat value) :
    ∃ digit < 10, character = digitChar digit := by
  induction value using Nat.strongRecOn with
  | ind value ih =>
      rw [ofNat] at member
      split at member
      · rename_i small
        exact ⟨value, small, List.mem_singleton.mp member⟩
      · rcases List.mem_append.mp member with front | last
        · exact ih (value / 10) (by omega) front
        · exact ⟨value % 10, by omega, List.mem_singleton.mp last⟩

theorem not_mem_ofNat {character : Char} (noDigit : ∀ digit < 10, character ≠ digitChar digit)
    (value : Nat) : character ∉ ofNat value := by
  intro member
  obtain ⟨digit, small, same⟩ := mem_ofNat member
  exact noDigit digit small same

theorem not_mem_ofInt {character : Char} (noDigit : ∀ digit < 10, character ≠ digitChar digit)
    (noSign : character ≠ '-') (value : Int) : character ∉ ofInt value := by
  cases value with
  | ofNat value => exact not_mem_ofNat noDigit value
  | negSucc value => simp [ofInt, noSign, not_mem_ofNat noDigit]

/-- A number is written with at least one digit. -/
theorem exists_ofNat_eq_cons (value : Nat) :
    ∃ digit < 10, ∃ rest, ofNat value = digitChar digit :: rest := by
  induction value using Nat.strongRecOn with
  | ind value ih =>
      by_cases small : value < 10
      · exact ⟨value, small, [], ofNat_of_lt small⟩
      · obtain ⟨digit, isDigit, rest, front⟩ := ih (value / 10) (by omega)
        refine ⟨digit, isDigit, rest ++ [digitChar (value % 10)], ?_⟩
        rw [ofNat_of_le (Nat.not_lt.mp small), front, List.cons_append]

theorem exists_padded_eq_cons (width value : Nat) :
    ∃ digit < 10, ∃ rest, padded width value = digitChar digit :: rest := by
  obtain ⟨digit, isDigit, rest, digits⟩ := exists_ofNat_eq_cons value
  rw [padded]
  cases width - (ofNat value).length with
  | zero => exact ⟨digit, isDigit, rest, digits⟩
  | succ zeros => exact ⟨0, by decide, _, rfl⟩

/-- Numbers below a power of ten have no more digits than its exponent. -/
theorem length_ofNat_le {width value : Nat} (some : 0 < width) (below : value < 10 ^ width) :
    (ofNat value).length ≤ width := by
  induction width generalizing value with
  | zero => cases some
  | succ width ih =>
      by_cases small : value < 10
      · rw [ofNat_of_lt small, List.length_singleton]
        exact Nat.le_add_left 1 width
      · have wide : 0 < width := by
          rcases Nat.eq_zero_or_pos width with rfl | wide
          · exact absurd below small
          · exact wide
        have shorter : (ofNat (value / 10)).length ≤ width :=
          ih wide (Nat.div_lt_of_lt_mul (Nat.pow_succ' ▸ below))
        rw [ofNat_of_le (Nat.not_lt.mp small), List.length_append, List.length_singleton]
        exact Nat.succ_le_succ shorter

theorem mem_padded {width value : Nat} {character : Char}
    (member : character ∈ padded width value) :
    ∃ digit < 10, character = digitChar digit := by
  rcases List.mem_append.mp member with filling | digits
  · exact ⟨0, by decide, List.eq_of_mem_replicate filling⟩
  · exact mem_ofNat digits

theorem length_padded {width value : Nat} (some : 0 < width) (below : value < 10 ^ width) :
    (padded width value).length = width := by
  have fits := length_ofNat_le some below
  rw [padded, List.length_append, List.length_replicate]
  exact Nat.sub_add_cancel fits

namespace IntegerRange

variable {range : IntegerRange} {value : Nat}

theorem growUp_append (start : Int) (front back : List Char) :
    range.growUp start (front ++ back) =
      (range.growUp start front).bind fun value => range.growUp value back := by
  induction front generalizing start with
  | nil => rfl
  | cons character rest ih =>
      rw [List.cons_append, growUp, growUp]
      cases digitValue? character with
      | none => rfl
      | some digit =>
          dsimp only
          split
          · rfl
          · exact ih _

theorem growDown_append (start : Int) (front back : List Char) :
    range.growDown start (front ++ back) =
      (range.growDown start front).bind fun value => range.growDown value back := by
  induction front generalizing start with
  | nil => rfl
  | cons character rest ih =>
      rw [List.cons_append, growDown, growDown]
      cases digitValue? character with
      | none => rfl
      | some digit =>
          dsimp only
          split
          · rfl
          · exact ih _

theorem growUp_digitChar {start : Int} {digit : Nat} (isDigit : digit < 10)
    (fits : start * 10 + digit ≤ range.greatest) :
    range.growUp start [digitChar digit] = .ok (start * 10 + digit) := by
  simp only [growUp, digitValue?_digitChar digit isDigit, if_neg (Int.not_lt.mpr fits)]

theorem growDown_digitChar {start : Int} {digit : Nat} (isDigit : digit < 10)
    (fits : range.least ≤ start * 10 - digit) :
    range.growDown start [digitChar digit] = .ok (start * 10 - digit) := by
  simp only [growDown, digitValue?_digitChar digit isDigit, if_neg (Int.not_lt.mpr fits)]

theorem growUp_ofNat (fits : value ≤ range.greatest) :
    range.growUp 0 (ofNat value) = .ok value := by
  induction value using Nat.strongRecOn with
  | ind value ih =>
      by_cases small : value < 10
      · rw [ofNat_of_lt small, growUp_digitChar small (by omega)]
        simp
      · have front := ih (value / 10) (by omega) (by omega)
        have last : value % 10 < 10 := Nat.mod_lt _ (by decide)
        have whole : (value / 10 : Nat) * 10 + (value % 10 : Nat) = (value : Int) := by omega
        rw [ofNat_of_le (Nat.not_lt.mp small), growUp_append, front, Except.bind,
          growUp_digitChar last (by omega), whole]

theorem growDown_ofNat (fits : range.least ≤ -value) :
    range.growDown 0 (ofNat value) = .ok (-value) := by
  induction value using Nat.strongRecOn with
  | ind value ih =>
      by_cases small : value < 10
      · rw [ofNat_of_lt small, growDown_digitChar small (by omega)]
        simp
      · have front := ih (value / 10) (by omega) (by omega)
        have last : value % 10 < 10 := Nat.mod_lt _ (by decide)
        have whole : -((value / 10 : Nat) : Int) * 10 - (value % 10 : Nat) = -value := by omega
        rw [ofNat_of_le (Nat.not_lt.mp small), growDown_append, front, Except.bind,
          growDown_digitChar last (by omega), whole]

theorem growUp_replicate (notNegative : 0 ≤ range.greatest) (zeros : Nat) (rest : List Char) :
    range.growUp 0 (List.replicate zeros '0' ++ rest) = range.growUp 0 rest := by
  induction zeros with
  | zero => rfl
  | succ zeros ih =>
      have zero : range.growUp 0 [digitChar 0] = .ok 0 := growUp_digitChar (by decide) notNegative
      change range.growUp 0 ([digitChar 0] ++ (List.replicate zeros '0' ++ rest)) = _
      rw [growUp_append, zero, Except.bind, ih]

theorem growDown_replicate (notPositive : range.least ≤ 0) (zeros : Nat) (rest : List Char) :
    range.growDown 0 (List.replicate zeros '0' ++ rest) = range.growDown 0 rest := by
  induction zeros with
  | zero => rfl
  | succ zeros ih =>
      have zero : range.growDown 0 [digitChar 0] = .ok 0 :=
        growDown_digitChar (by decide) notPositive
      change range.growDown 0 ([digitChar 0] ++ (List.replicate zeros '0' ++ rest)) = _
      rw [growDown_append, zero, Except.bind, ih]

theorem growUp_padded (fits : value ≤ range.greatest) (width : Nat) :
    range.growUp 0 (padded width value) = .ok value := by
  rw [padded, growUp_replicate (by omega), growUp_ofNat fits]

theorem growDown_padded (fits : range.least ≤ -value) (width : Nat) :
    range.growDown 0 (padded width value) = .ok (-value) := by
  rw [padded, growDown_replicate (by omega), growDown_ofNat fits]

private theorem digitChar_ne_sign :
    ∀ digit < 10, digitChar digit ≠ '+' ∧ digitChar digit ≠ '-' := by
  decide

theorem read_padded (fits : value ≤ range.greatest) (width : Nat) :
    range.read (String.ofList (padded width value)) = .ok value := by
  obtain ⟨digit, isDigit, rest, digits⟩ := exists_padded_eq_cons width value
  obtain ⟨noPlus, noMinus⟩ := digitChar_ne_sign digit isDigit
  have grown := growUp_padded fits width
  rw [digits] at grown
  rw [read, String.toList_ofList, digits]
  split <;> simp_all

theorem read_plus_padded (fits : value ≤ range.greatest) (width : Nat) :
    range.read (String.ofList ('+' :: padded width value)) = .ok value := by
  obtain ⟨digit, isDigit, rest, digits⟩ := exists_padded_eq_cons width value
  have grown := growUp_padded fits width
  rw [digits] at grown
  rw [read, String.toList_ofList, digits]
  exact grown

theorem read_minus_padded (negative : range.least < 0) (fits : range.least ≤ -value) (width : Nat) :
    range.read (String.ofList ('-' :: padded width value)) = .ok (-value) := by
  obtain ⟨digit, isDigit, rest, digits⟩ := exists_padded_eq_cons width value
  have grown := growDown_padded fits width
  rw [digits] at grown
  rw [read, String.toList_ofList, digits]
  exact (if_pos negative).trans grown

end IntegerRange

end SessionGate.Decimal
