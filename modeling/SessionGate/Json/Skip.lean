import SessionGate.Json.Lexeme

/-!
# Passing over a value

A value that nobody wants is passed over with an explicit stack of the lists and objects that
are still open, so its depth has no limit. What is left is always shorter than the input.
-/

namespace SessionGate.Json

theorem length_skipBlanks_le (input : Octets) : (skipBlanks input).length ≤ input.length :=
  (List.dropWhile_suffix isBlank).length_le

theorem length_dropDigits_le (input : Octets) :
    (input.dropWhile isDigit).length ≤ input.length :=
  (List.dropWhile_suffix isDigit).length_le

/-- Removing blanks and then one byte leaves less. -/
theorem length_of_skipBlanks_eq_cons {input rest : Octets} {byte : UInt8}
    (h : skipBlanks input = byte :: rest) : rest.length < input.length := by
  have bound := length_skipBlanks_le input
  rw [h, List.length_cons] at bound
  omega

theorem length_takeWord_le {letters : List Char} {input rest : Octets}
    (h : takeWord letters input = .ok rest) : rest.length ≤ input.length := by
  fun_induction takeWord letters input with
  | case1 input => cases h; exact Nat.le_refl _
  | case2 => cases h
  | case3 letters byte tail ih =>
      have := ih h
      simp only [List.length_cons]
      omega
  | case4 => cases h

theorem length_skipText_lt {state : SkipState} {input rest : Octets}
    (h : skipText state input = .ok rest) : rest.length < input.length := by
  fun_induction skipText state input with
  | case1 => cases h
  | case2 tail => cases h; simp
  | case3 tail _ ih => have := ih h; simp only [List.length_cons]; omega
  | case4 => cases h
  | case5 byte tail _ _ _ ih => have := ih h; simp only [List.length_cons]; omega
  | case6 tail ih => have := ih h; simp only [List.length_cons]; omega
  | case7 byte tail _ _ ih => have := ih h; simp only [List.length_cons]; omega
  | case8 => cases h
  | case9 taken byte tail _ ih => have := ih h; simp only [List.length_cons]; omega
  | case10 taken byte tail _ _ ih => have := ih h; simp only [List.length_cons]; omega
  | case11 => cases h

theorem length_skipSign_le (input : Octets) : (skipSign input).length ≤ input.length := by
  cases input with
  | nil => exact Nat.le_refl _
  | cons byte tail =>
      simp only [skipSign]
      split
      · exact Nat.le_succ _
      · exact Nat.le_refl _

theorem length_skipExponentDigits_lt {input rest : Octets}
    (h : skipExponentDigits input = .ok rest) : rest.length < input.length := by
  cases input with
  | nil => cases h
  | cons byte tail =>
      simp only [skipExponentDigits] at h
      split at h
      · cases h
        exact Nat.lt_succ_of_le (length_dropDigits_le tail)
      · cases h

theorem length_skipExponent_lt {input rest : Octets} (h : skipExponent input = .ok rest) :
    rest.length < input.length :=
  Nat.lt_of_lt_of_le (length_skipExponentDigits_lt h) (length_skipSign_le input)

theorem length_skipPlaces_le {input rest : Octets} (h : skipPlaces input = .ok rest) :
    rest.length ≤ input.length := by
  unfold skipPlaces at h
  cases input with
  | nil => cases h; exact Nat.le_refl _
  | cons mark tail =>
      simp only at h
      split at h
      · cases tail with
        | nil => cases h
        | cons byte places =>
            simp only at h
            split at h
            · have drop := length_dropDigits_le places
              split at h
              · rename_i letter exponent same
                rw [same, List.length_cons] at drop
                split at h
                · have := length_skipExponent_lt h
                  simp only [List.length_cons]
                  omega
                · cases h
                  simp only [List.length_cons]
                  omega
              · cases h
                simp
            · cases h
      · split at h
        · have := length_skipExponent_lt h
          simp only [List.length_cons]
          omega
        · cases h
          exact Nat.le_refl _

theorem length_skipNumber_lt {input rest : Octets} (h : skipNumber input = .ok rest) :
    rest.length < input.length := by
  cases input with
  | nil => cases h
  | cons byte tail =>
      simp only [skipNumber] at h
      simp only [List.length_cons]
      split at h
      · split at h
        · cases h
        · have := length_skipPlaces_le h
          omega
      · split at h
        · have := length_skipPlaces_le h
          have := length_dropDigits_le tail
          omega
        · cases h

def takeColon (input : Octets) : Except Failure Octets :=
  match skipBlanks input with
  | [] => mistakeOn .endInObject []
  | byte :: rest => if byte = 0x3a then .ok rest else mistakeOn .expectedColon (byte :: rest)

theorem length_takeColon_lt {input rest : Octets} (h : takeColon input = .ok rest) :
    rest.length < input.length := by
  unfold takeColon at h
  split at h
  · cases h
  · rename_i byte tail found
    split at h
    · cases h
      exact length_of_skipBlanks_eq_cons found
    · cases h

/-- Pass over a key and its colon. -/
def skipKey (input : Octets) : Except Failure Octets :=
  match skipBlanks input with
  | [] => mistakeOn .endInObject []
  | byte :: rest =>
      if byte = 0x22 then (skipText .plain rest).bind takeColon
      else mistakeOn .keyNotText (byte :: rest)

theorem length_skipKey_lt {input rest : Octets} (h : skipKey input = .ok rest) :
    rest.length < input.length := by
  unfold skipKey at h
  split at h
  · cases h
  · rename_i byte tail found
    split at h
    · cases taken : skipText .plain tail with
      | error failure => rw [taken] at h; cases h
      | ok after =>
          rw [taken] at h
          have := length_takeColon_lt h
          have := length_skipText_lt taken
          have := length_of_skipBlanks_eq_cons found
          omega
    · cases h

/-- Pass over a word, a text or a number, given its first byte. -/
def skipScalar (byte : UInt8) (rest : Octets) : Except Failure Octets :=
  match Char.ofUInt8 byte with
  | 'n' => takeWord ['u', 'l', 'l'] rest
  | 't' => takeWord ['r', 'u', 'e'] rest
  | 'f' => takeWord ['a', 'l', 's', 'e'] rest
  | '"' => skipText .plain rest
  | '-' => skipNumber rest
  | _ => if isDigit byte then skipNumber (byte :: rest) else mistakeOn .expectedValue (byte :: rest)

theorem length_skipScalar_le {byte : UInt8} {input rest : Octets}
    (h : skipScalar byte input = .ok rest) : rest.length ≤ input.length := by
  unfold skipScalar at h
  split at h
  · exact length_takeWord_le h
  · exact length_takeWord_le h
  · exact length_takeWord_le h
  · exact Nat.le_of_lt (length_skipText_lt h)
  · exact Nat.le_of_lt (length_skipNumber_lt h)
  · split at h
    · have := length_skipNumber_lt h
      simp only [List.length_cons] at this
      omega
    · cases h

/-- A list or an object that is still open. -/
inductive Frame where
  | list
  | object
  deriving DecidableEq, Repr

namespace Frame

/-- The frame that a byte opens. -/
def opening? (byte : UInt8) : Option Frame :=
  if byte = 0x5b then some .list else if byte = 0x7b then some .object else none

def closing : Frame → UInt8
  | .list => 0x5d
  | .object => 0x7d

/-- The mistake of a text that ends inside the frame. -/
def unfinished : Frame → Mistake
  | .list => .endInList
  | .object => .endInObject

/-- The mistake of something between two elements that is no comma. -/
def undivided : Frame → Mistake
  | .list => .expectedListEnd
  | .object => .expectedObjectEnd

/-- Pass over what stands before the value of an element: its key, in an object. -/
def enter : Frame → Octets → Except Failure Octets
  | .list, input => .ok input
  | .object, input => skipKey input

theorem length_enter_le {frame : Frame} {input rest : Octets} (h : frame.enter input = .ok rest) :
    rest.length ≤ input.length := by
  cases frame with
  | list => cases h; exact Nat.le_refl _
  | object => exact Nat.le_of_lt (length_skipKey_lt h)

end Frame

/-- What is looked for next: a value, or what may follow a value. -/
inductive Awaiting where
  | value
  | delimiter
  deriving DecidableEq, Repr

/-- Pass over values until all open frames are closed. -/
def skipOpen (awaiting : Awaiting) (frames : List Frame) (input : Octets) :
    Except Failure Octets :=
  match awaiting, frames with
  | .delimiter, [] => .ok input
  | .delimiter, frame :: outer =>
      match _found : skipBlanks input with
      | [] => mistakeOn frame.unfinished []
      | byte :: rest =>
          if byte = 0x2c then
            match _entered : frame.enter rest with
            | .ok inner => skipOpen .value (frame :: outer) inner
            | .error failure => .error failure
          else if byte = frame.closing then skipOpen .delimiter outer rest
          else mistakeOn frame.undivided (byte :: rest)
  | .value, frames =>
      match _found : skipBlanks input with
      | [] => mistakeOn .endInValue []
      | byte :: rest =>
          match Frame.opening? byte with
          | some frame =>
              match _next : skipBlanks rest with
              | [] => mistakeOn frame.unfinished []
              | next :: after =>
                  if next = frame.closing then skipOpen .delimiter frames after
                  else
                    match _entered : frame.enter (next :: after) with
                    | .ok inner => skipOpen .value (frame :: frames) inner
                    | .error failure => .error failure
          | none =>
              match _taken : skipScalar byte rest with
              | .ok after => skipOpen .delimiter frames after
              | .error failure => .error failure
termination_by input.length
decreasing_by
  · have := length_of_skipBlanks_eq_cons _found
    have := Frame.length_enter_le _entered
    omega
  · exact length_of_skipBlanks_eq_cons _found
  · have := length_of_skipBlanks_eq_cons _found
    have := length_of_skipBlanks_eq_cons _next
    omega
  · have := length_of_skipBlanks_eq_cons _found
    have bound := length_skipBlanks_le rest
    rw [_next] at bound
    have := Frame.length_enter_le _entered
    omega
  · have := length_of_skipBlanks_eq_cons _found
    have := length_skipScalar_le _taken
    omega

def skipValue (input : Octets) : Except Failure Octets :=
  skipOpen .value [] input

theorem length_skipOpen_le {awaiting : Awaiting} {frames : List Frame} {input rest : Octets}
    (h : skipOpen awaiting frames input = .ok rest) : rest.length ≤ input.length := by
  fun_induction skipOpen awaiting frames input with
  | case1 input => cases h; exact Nat.le_refl _
  | case2 => cases h
  | case3 input frame outer tail inner entered found ih =>
      have := ih h
      have := length_of_skipBlanks_eq_cons found
      have := Frame.length_enter_le entered
      omega
  | case4 => cases h
  | case5 input frame outer tail found _ ih =>
      have := ih h
      have := length_of_skipBlanks_eq_cons found
      omega
  | case6 => cases h
  | case7 => cases h
  | case8 => cases h
  | case9 input frames byte tail found frame opened after following ih =>
      have := ih h
      have := length_of_skipBlanks_eq_cons found
      have := length_of_skipBlanks_eq_cons following
      omega
  | case10 input frames byte tail found frame opened next after following stays inner entered ih =>
      have := ih h
      have := length_of_skipBlanks_eq_cons found
      have bound := length_skipBlanks_le tail
      rw [following] at bound
      have := Frame.length_enter_le entered
      omega
  | case11 => cases h
  | case12 input frames byte tail found noFrame after taken ih =>
      have := ih h
      have := length_of_skipBlanks_eq_cons found
      have := length_skipScalar_le taken
      omega
  | case13 => cases h

theorem length_skipValue_le {input rest : Octets} (h : skipValue input = .ok rest) :
    rest.length ≤ input.length :=
  length_skipOpen_le h

end SessionGate.Json
