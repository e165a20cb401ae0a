import SessionGate.Proofs.Json.Lexemes

/-!
# The grammar of JSON values

What a value is, with lists and objects of any depth. Passing over a value leaves exactly what
follows it, and whatever is passed over is a value. The frames that are open on the way stand for
the elements and brackets that are still to come.
-/

namespace SessionGate.Json

/-- What stands before the value of an element: blanks, and in an object its name and a colon. -/
def Frame.IsLead : Frame → Octets → Prop
  | .list, bytes => AreBlanks bytes
  | .object, bytes => ∃ front name beforeColon afterColon, AreBlanks front ∧ IsQuoted name ∧
      AreBlanks beforeColon ∧ AreBlanks afterColon ∧
      bytes = front ++ 0x22 :: (name ++ 0x22 :: (beforeColon ++ 0x3a :: afterColon))

/-- The byte that opens the frame. -/
def Frame.opening : Frame → UInt8
  | .list => 0x5b
  | .object => 0x7b

/-- A word, a text or a number. -/
inductive IsScalar : Octets → Prop
  | null : IsScalar [0x6e, 0x75, 0x6c, 0x6c]
  | yes : IsScalar [0x74, 0x72, 0x75, 0x65]
  | no : IsScalar [0x66, 0x61, 0x6c, 0x73, 0x65]
  | text {content : Octets} (quoted : IsQuoted content) :
      IsScalar (0x22 :: (content ++ [0x22]))
  | positive {bytes : Octets} (unsigned : IsUnsigned bytes) : IsScalar bytes
  | negative {bytes : Octets} (unsigned : IsUnsigned bytes) : IsScalar (0x2d :: bytes)

/-- The kinds of parts: a value, and the elements of a list or an object. -/
inductive PartKind where
  | value
  | elements (frame : Frame)

/-- The parts of a text. Elements are divided by commas, and there may be blanks between any two
parts. -/
inductive IsPart : PartKind → Octets → Prop
  | scalar {bytes : Octets} (isScalar : IsScalar bytes) : IsPart .value bytes
  | empty {frame : Frame} {blanks : Octets} (blank : AreBlanks blanks) :
      IsPart .value (frame.opening :: (blanks ++ [frame.closing]))
  | full {frame : Frame} {elements : Octets} (parts : IsPart (.elements frame) elements) :
      IsPart .value (frame.opening :: (elements ++ [frame.closing]))
  | last {frame : Frame} {lead value back : Octets} (isLead : frame.IsLead lead)
      (isValue : IsPart .value value) (blank : AreBlanks back) :
      IsPart (.elements frame) (lead ++ (value ++ back))
  | more {frame : Frame} {lead value back elements : Octets} (isLead : frame.IsLead lead)
      (isValue : IsPart .value value) (blank : AreBlanks back)
      (parts : IsPart (.elements frame) elements) :
      IsPart (.elements frame) (lead ++ (value ++ (back ++ 0x2c :: elements)))

/-- A value without blanks around it. -/
abbrev IsValue (bytes : Octets) : Prop :=
  IsPart .value bytes

/-! ## Words, texts and numbers -/

theorem takeWord_append {letters : List Char} {bytes : Octets}
    (spelled : bytes.map Char.ofUInt8 = letters) (rest : Octets) :
    takeWord letters (bytes ++ rest) = .ok rest := by
  subst spelled
  induction bytes with
  | nil => rfl
  | cons byte bytes ih => rw [List.map_cons, List.cons_append, takeWord, if_pos rfl, ih]

theorem exists_of_takeWord {letters : List Char} {input rest : Octets}
    (taken : takeWord letters input = .ok rest) :
    ∃ bytes, bytes.map Char.ofUInt8 = letters ∧ input = bytes ++ rest := by
  fun_induction takeWord letters input with
  | case1 input =>
      cases taken
      exact ⟨[], rfl, rfl⟩
  | case2 => cases taken
  | case3 letters byte tail ih =>
      obtain ⟨bytes, rfl, rfl⟩ := ih taken
      exact ⟨byte :: bytes, rfl, rfl⟩
  | case4 => cases taken

/-- The first byte of a number. -/
theorem IsUnsigned.exists_eq_cons {bytes : Octets} (unsigned : IsUnsigned bytes) :
    ∃ first rest, bytes = first :: rest ∧ isDigit first = true := by
  obtain ⟨whole, places, exponent, isWhole, -, -, rfl⟩ := unsigned
  rcases isWhole with rfl | ⟨⟨some, all⟩, -⟩
  · exact ⟨0x30, places ++ exponent, rfl, rfl⟩
  · cases whole with
    | nil => exact absurd rfl some
    | cons first whole => exact ⟨first, _, rfl, all first List.mem_cons_self⟩

theorem eq_of_ofUInt8 {byte : UInt8} {letter : Char} (same : Char.ofUInt8 byte = letter) :
    byte = letter.toUInt8 := by
  subst same
  exact (UInt8.toUInt8_toUInt32 byte).symm

/-- A digit begins nothing but a number. -/
theorem skipScalar_digit {byte : UInt8} (digit : isDigit byte = true) (rest : Octets) :
    skipScalar byte rest = skipNumber (byte :: rest) := by
  have other {letter : Char} (notDigit : isDigit letter.toUInt8 = false) :
      Char.ofUInt8 byte ≠ letter := by
    intro same
    rw [← eq_of_ofUInt8 same, digit] at notDigit
    cases notDigit
  unfold skipScalar
  split
  · rename_i same
    exact absurd same (other rfl)
  · rename_i same
    exact absurd same (other rfl)
  · rename_i same
    exact absurd same (other rfl)
  · rename_i same
    exact absurd same (other rfl)
  · rename_i same
    exact absurd same (other rfl)
  · rw [if_pos digit]

/-- A word, a text or a number is passed over, up to a byte that could not go on with it. -/
theorem IsScalar.skipScalar_eq {bytes rest : Octets} (isScalar : IsScalar bytes)
    (ends : EndsNumber rest) :
    ∃ first more, bytes = first :: more ∧ isBlank first = false ∧ Frame.opening? first = none ∧
      first ≠ 0x5d ∧ skipScalar first (more ++ rest) = .ok rest := by
  cases isScalar with
  | null =>
      have spelled : [0x75, 0x6c, 0x6c].map Char.ofUInt8 = ['u', 'l', 'l'] := rfl
      exact ⟨0x6e, _, rfl, rfl, rfl, by decide, takeWord_append spelled rest⟩
  | yes =>
      have spelled : [0x72, 0x75, 0x65].map Char.ofUInt8 = ['r', 'u', 'e'] := rfl
      exact ⟨0x74, _, rfl, rfl, rfl, by decide, takeWord_append spelled rest⟩
  | no =>
      have spelled : [0x61, 0x6c, 0x73, 0x65].map Char.ofUInt8 = ['a', 'l', 's', 'e'] := rfl
      exact ⟨0x66, _, rfl, rfl, rfl, by decide, takeWord_append spelled rest⟩
  | @text content quoted =>
      refine ⟨0x22, _, rfl, rfl, rfl, by decide, ?_⟩
      rw [List.append_assoc]
      exact quoted.skipText_eq rest
  | positive unsigned =>
      have skipped := unsigned.skipNumber_eq ends
      obtain ⟨first, more, rfl, digit⟩ := unsigned.exists_eq_cons
      have other {byte : UInt8} (notDigit : isDigit byte = false) : first ≠ byte := by
        rintro rfl
        rw [digit] at notDigit
        cases notDigit
      refine ⟨first, more, rfl, isBlank_of_isDigit digit, ?_, other rfl, ?_⟩
      · rw [Frame.opening?, if_neg (other rfl), if_neg (other rfl)]
      · rw [skipScalar_digit digit]
        exact skipped
  | negative unsigned =>
      exact ⟨0x2d, _, rfl, rfl, rfl, by decide, unsigned.skipNumber_eq ends⟩

theorem exists_isScalar {byte : UInt8} {input rest : Octets}
    (skipped : skipScalar byte input = .ok rest) :
    ∃ more, IsScalar (byte :: more) ∧ input = more ++ rest := by
  have word {letters : List Char} {bytes : Octets} (spelled : bytes.map Char.ofUInt8 = letters)
      (taken : takeWord letters input = .ok rest) : input = bytes ++ rest := by
    obtain ⟨bytes', spelled', rfl⟩ := exists_of_takeWord taken
    have same : bytes' = bytes := by
      have codes := congrArg (List.map Char.toUInt8) (spelled'.trans spelled.symm)
      simpa [Function.comp_def, ← eq_of_ofUInt8 rfl] using codes
    rw [same]
  unfold skipScalar at skipped
  split at skipped
  · rename_i same
    obtain rfl := eq_of_ofUInt8 same
    exact ⟨_, .null, word rfl skipped⟩
  · rename_i same
    obtain rfl := eq_of_ofUInt8 same
    exact ⟨_, .yes, word rfl skipped⟩
  · rename_i same
    obtain rfl := eq_of_ofUInt8 same
    exact ⟨_, .no, word rfl skipped⟩
  · rename_i same
    obtain rfl := eq_of_ofUInt8 same
    obtain ⟨content, rfl, quoted⟩ := exists_isQuoted skipped
    exact ⟨content ++ [0x22], .text quoted, by simp⟩
  · rename_i same
    obtain rfl := eq_of_ofUInt8 same
    obtain ⟨bytes, unsigned, rfl⟩ := exists_isUnsigned skipped
    exact ⟨bytes, .negative unsigned, rfl⟩
  · split at skipped
    · obtain ⟨bytes, unsigned, same⟩ := exists_isUnsigned skipped
      obtain ⟨first, more, rfl, -⟩ := unsigned.exists_eq_cons
      obtain ⟨rfl, rfl⟩ := List.cons.inj same
      exact ⟨more, .positive unsigned, rfl⟩
    · cases skipped

/-! ## One step of passing over a value -/

/-- Pass over the values from the next element of a frame on. -/
def enterValue (frame : Frame) (outer : List Frame) (input : Octets) : Except Failure Octets :=
  (frame.enter input).bind (skipOpen .value (frame :: outer))

section

variable {frame : Frame} {frames outer : List Frame} {input rest after : Octets} {byte : UInt8}

theorem skipOpen_delimiter_nil : skipOpen .delimiter [] input = .ok input := by
  rw [skipOpen]

theorem skipOpen_delimiter_cons :
    skipOpen .delimiter (frame :: outer) input =
      match skipBlanks input with
      | [] => mistakeOn frame.unfinished []
      | byte :: rest =>
          if byte = 0x2c then enterValue frame outer rest
          else if byte = frame.closing then skipOpen .delimiter outer rest
          else mistakeOn frame.undivided (byte :: rest) := by
  rw [skipOpen]
  split
  · rename_i same
    rw [same]
  · rename_i byte rest same
    rw [same]
    dsimp only [enterValue]
    congr 1
    cases frame.enter rest <;> rfl

theorem skipOpen_value :
    skipOpen .value frames input =
      match skipBlanks input with
      | [] => mistakeOn .endInValue []
      | byte :: rest =>
          match Frame.opening? byte with
          | some frame =>
              match skipBlanks rest with
              | [] => mistakeOn frame.unfinished []
              | next :: after =>
                  if next = frame.closing then skipOpen .delimiter frames after
                  else enterValue frame frames (next :: after)
          | none => (skipScalar byte rest).bind (skipOpen .delimiter frames) := by
  rw [skipOpen]
  split
  · rename_i same
    rw [same]
  · rename_i byte rest same
    rw [same]
    dsimp only
    cases Frame.opening? byte with
    | some frame =>
        dsimp only
        split
        · rename_i same
          rw [same]
        · rename_i next after same
          rw [same]
          dsimp only [enterValue]
          congr 1
          cases frame.enter (next :: after) <;> rfl
    | none =>
        dsimp only
        cases skipScalar byte rest <;> rfl

theorem skipBlanks_skipBlanks (input : Octets) :
    skipBlanks (skipBlanks input) = skipBlanks input := by
  cases found : skipBlanks input with
  | nil => rfl
  | cons byte rest => exact skipBlanks_cons (isBlank_of_skipBlanks found)

/-- Blanks before a value make no difference. -/
theorem skipOpen_value_congr {input' : Octets} (same : skipBlanks input = skipBlanks input') :
    skipOpen .value frames input = skipOpen .value frames input' := by
  rw [skipOpen_value, skipOpen_value, same]

/-- Blanks before an element make no difference. -/
theorem enterValue_skipBlanks :
    enterValue frame outer (skipBlanks input) = enterValue frame outer input := by
  cases frame with
  | list => exact skipOpen_value_congr (skipBlanks_skipBlanks input)
  | object => simp only [enterValue, Frame.enter, skipKey, skipBlanks_skipBlanks]

/-- What stands before the value of an element is passed over. -/
theorem Frame.IsLead.enterValue_eq {lead : Octets} (isLead : frame.IsLead lead) (rest : Octets) :
    enterValue frame outer (lead ++ rest) = skipOpen .value (frame :: outer) rest := by
  cases frame with
  | list => exact skipOpen_value_congr (skipBlanks_append isLead rest)
  | object =>
      obtain ⟨front, name, beforeColon, afterColon, blank, quoted, blank', blank'', rfl⟩ := isLead
      have keyed : skipKey
          (front ++ 0x22 :: (name ++ 0x22 :: (beforeColon ++ 0x3a :: afterColon)) ++ rest) =
            .ok (afterColon ++ rest) := by
        simp only [List.append_assoc, List.cons_append]
        rw [skipKey, skipBlanks_append_cons blank rfl]
        dsimp only
        rw [if_pos rfl, quoted.skipText_eq, Except.bind, takeColon,
          skipBlanks_append_cons blank' rfl]
        rfl
      rw [enterValue, Frame.enter, keyed]
      exact skipOpen_value_congr (skipBlanks_append blank'' rest)

theorem Frame.closing_ne_comma (frame : Frame) : frame.closing ≠ 0x2c := by
  cases frame <;> decide

theorem Frame.opening?_opening (frame : Frame) : Frame.opening? frame.opening = some frame := by
  cases frame <;> rfl

theorem Frame.eq_opening {byte : UInt8} {frame : Frame}
    (opened : Frame.opening? byte = some frame) : byte = frame.opening := by
  unfold Frame.opening? at opened
  split at opened
  · cases opened
    assumption
  · split at opened
    · cases opened
      assumption
    · cases opened

theorem Frame.isBlank_opening (frame : Frame) : isBlank frame.opening = false := by
  cases frame <;> rfl

theorem Frame.isBlank_closing (frame : Frame) : isBlank frame.closing = false := by
  cases frame <;> rfl

theorem Frame.opening_ne (frame : Frame) : frame.opening ≠ 0x5d := by
  cases frame <;> decide

/-- A frame is closed after blanks. -/
theorem skipOpen_closing {blanks : Octets} (blank : AreBlanks blanks) :
    skipOpen .delimiter (frame :: outer) (blanks ++ frame.closing :: rest) =
      skipOpen .delimiter outer rest := by
  rw [skipOpen_delimiter_cons, skipBlanks_append_cons blank frame.isBlank_closing]
  dsimp only
  rw [if_neg frame.closing_ne_comma, if_pos rfl]

/-- A frame that holds something is entered. -/
theorem skipOpen_opening {next : UInt8} (found : skipBlanks input = next :: after)
    (notClosing : next ≠ frame.closing) :
    skipOpen .value frames (frame.opening :: input) = enterValue frame frames input := by
  rw [skipOpen_value, skipBlanks_cons frame.isBlank_opening]
  dsimp only
  rw [frame.opening?_opening]
  dsimp only
  rw [found]
  dsimp only
  rw [if_neg notClosing, ← found, enterValue_skipBlanks]

/-- A frame that holds nothing is closed at once. -/
theorem skipOpen_empty {blanks : Octets} (blank : AreBlanks blanks) :
    skipOpen .value frames (frame.opening :: (blanks ++ frame.closing :: rest)) =
      skipOpen .delimiter frames rest := by
  rw [skipOpen_value, skipBlanks_cons frame.isBlank_opening]
  dsimp only
  rw [frame.opening?_opening]
  dsimp only
  rw [skipBlanks_append_cons blank frame.isBlank_closing]
  dsimp only
  rw [if_pos rfl]

/-- A comma leads to the next element. -/
theorem skipOpen_comma {blanks : Octets} (blank : AreBlanks blanks) :
    skipOpen .delimiter (frame :: outer) (blanks ++ 0x2c :: rest) =
      enterValue frame outer rest := by
  rw [skipOpen_delimiter_cons, skipBlanks_append_cons blank rfl]
  rfl

end

/-! ## Passing over a value -/

theorem endsNumber_of_isBlank {byte : UInt8} (blank : isBlank byte = true) (rest : Octets) :
    EndsNumber (byte :: rest) := by
  simp only [isBlank, Bool.or_eq_true, beq_iff_eq] at blank
  rcases blank with ((rfl | rfl) | rfl) | rfl <;> exact ⟨rfl, by decide⟩

theorem EndsNumber.append {blanks rest : Octets} (blank : AreBlanks blanks)
    (ends : EndsNumber rest) : EndsNumber (blanks ++ rest) := by
  cases blanks with
  | nil => exact ends
  | cons byte blanks => exact endsNumber_of_isBlank (blank byte List.mem_cons_self) _

theorem endsNumber_closing (frame : Frame) (rest : Octets) :
    EndsNumber (frame.closing :: rest) := by
  cases frame <;> exact ⟨rfl, by decide⟩

/-- A value begins with a byte that neither is a blank nor closes a list. -/
theorem IsValue.exists_eq_cons {bytes : Octets} (isValue : IsValue bytes) :
    ∃ first rest, bytes = first :: rest ∧ isBlank first = false ∧ first ≠ 0x5d := by
  cases isValue with
  | scalar isScalar =>
      have ends : EndsNumber [] := trivial
      obtain ⟨first, rest, rfl, visible, -, notClosing, -⟩ := isScalar.skipScalar_eq ends
      exact ⟨first, rest, rfl, visible, notClosing⟩
  | @empty frame => exact ⟨frame.opening, _, rfl, frame.isBlank_opening, frame.opening_ne⟩
  | @full frame => exact ⟨frame.opening, _, rfl, frame.isBlank_opening, frame.opening_ne⟩

/-- What stands before a value, and the value, begin with a byte that does not close the frame. -/
theorem Frame.IsLead.exists_skipBlanks {frame : Frame} {lead value : Octets}
    (isLead : frame.IsLead lead) (isValue : IsValue value) (rest : Octets) :
    ∃ next after, skipBlanks (lead ++ (value ++ rest)) = next :: after ∧ next ≠ frame.closing := by
  cases frame with
  | list =>
      obtain ⟨first, more, rfl, visible, notClosing⟩ := isValue.exists_eq_cons
      exact ⟨first, more ++ rest, skipBlanks_append_cons isLead visible, notClosing⟩
  | object =>
      obtain ⟨front, name, beforeColon, afterColon, blank, -, -, -, rfl⟩ := isLead
      refine ⟨0x22, name ++ 0x22 :: (beforeColon ++ 0x3a :: afterColon) ++ (value ++ rest), ?_,
        by decide⟩
      rw [List.append_assoc, List.cons_append, skipBlanks_append_cons blank rfl]

/-- Elements begin with a byte that does not close their frame. -/
theorem exists_skipBlanks_elements {frame : Frame} {elements : Octets}
    (parts : IsPart (.elements frame) elements) (rest : Octets) :
    ∃ next after, skipBlanks (elements ++ rest) = next :: after ∧ next ≠ frame.closing := by
  cases parts with
  | @last _ lead value back isLead isValue =>
      rw [List.append_assoc, List.append_assoc]
      exact isLead.exists_skipBlanks isValue (back ++ rest)
  | @more _ lead value back elements isLead isValue =>
      rw [List.append_assoc, List.append_assoc]
      exact isLead.exists_skipBlanks isValue (back ++ 0x2c :: elements ++ rest)

/-- What passing over a part comes to: what follows a value is looked at next, and what follows
the bracket after the elements of a frame. -/
def PassesOver : PartKind → Octets → Prop
  | .value, bytes => ∀ frames rest, EndsNumber rest →
      skipOpen .value frames (bytes ++ rest) = skipOpen .delimiter frames rest
  | .elements frame, bytes => ∀ outer rest,
      enterValue frame outer (bytes ++ frame.closing :: rest) = skipOpen .delimiter outer rest

/-- Every part is passed over. -/
theorem IsPart.passesOver {kind : PartKind} {bytes : Octets} (part : IsPart kind bytes) :
    PassesOver kind bytes := by
  induction part with
  | scalar isScalar =>
      intro frames rest ends
      obtain ⟨first, more, rfl, visible, noFrame, -, skipped⟩ := isScalar.skipScalar_eq ends
      rw [skipOpen_value, List.cons_append, skipBlanks_cons visible]
      dsimp only
      rw [noFrame, skipped]
      rfl
  | @empty frame blanks blank =>
      intro frames rest ends
      rw [List.cons_append, List.append_assoc, List.singleton_append, skipOpen_empty blank]
  | @full frame elements parts ih =>
      intro frames rest ends
      obtain ⟨next, after, found, notClosing⟩ :=
        exists_skipBlanks_elements parts (frame.closing :: rest)
      rw [List.cons_append, List.append_assoc, List.singleton_append,
        skipOpen_opening found notClosing, ih]
  | @last frame lead value back isLead isValue blank ih =>
      intro outer rest
      rw [List.append_assoc, List.append_assoc, isLead.enterValue_eq,
        ih _ _ ((endsNumber_closing frame rest).append blank), skipOpen_closing blank]
  | @more frame lead value back elements isLead isValue blank parts ih ih' =>
      intro outer rest
      have ends : EndsNumber (0x2c :: (elements ++ frame.closing :: rest)) := ⟨rfl, by decide⟩
      simp only [List.append_assoc, List.cons_append]
      rw [isLead.enterValue_eq, ih _ _ (ends.append blank), skipOpen_comma blank, ih']

/-- A value is passed over, and no more than that. -/
theorem skipValue_eq {blanks value rest : Octets} (blank : AreBlanks blanks)
    (isValue : IsValue value) (ends : EndsNumber rest) :
    skipValue (blanks ++ (value ++ rest)) = .ok rest := by
  rw [skipValue, skipOpen_value_congr (skipBlanks_append blank _), isValue.passesOver [] rest ends,
    skipOpen_delimiter_nil]

/-! ## What is passed over -/

/-- What is still to come when frames are open, the innermost first: for each of them the rest of
its elements, if there are more, and its bracket. -/
inductive Completes : List Frame → Octets → Prop
  | nil : Completes [] []
  | closed {frame : Frame} {outer : List Frame} {back more : Octets} (blank : AreBlanks back)
      (completes : Completes outer more) :
      Completes (frame :: outer) (back ++ frame.closing :: more)
  | elements {frame : Frame} {outer : List Frame} {back elements more : Octets}
      (blank : AreBlanks back) (parts : IsPart (.elements frame) elements)
      (completes : Completes outer more) :
      Completes (frame :: outer) (back ++ 0x2c :: (elements ++ frame.closing :: more))

/-- A value, together with what is still to come of its frame, makes up the elements from it on. -/
theorem Completes.exists_elements {frame : Frame} {outer : List Frame} {lead value more : Octets}
    (isLead : frame.IsLead lead) (isValue : IsValue value)
    (completes : Completes (frame :: outer) more) :
    ∃ elements more', IsPart (.elements frame) elements ∧ Completes outer more' ∧
      lead ++ (value ++ more) = elements ++ frame.closing :: more' := by
  cases completes with
  | @closed _ _ back more blank completes =>
      exact ⟨_, more, .last isLead isValue blank, completes, by simp⟩
  | @elements _ _ back elements more blank parts completes =>
      exact ⟨_, more, .more isLead isValue blank parts, completes, by simp⟩

theorem exists_of_takeColon {input rest : Octets} (taken : takeColon input = .ok rest) :
    ∃ blanks, AreBlanks blanks ∧ input = blanks ++ 0x3a :: rest := by
  obtain ⟨blanks, blank, same⟩ := exists_areBlanks input
  refine ⟨blanks, blank, ?_⟩
  rw [takeColon] at taken
  split at taken
  · cases taken
  · rename_i byte tail found
    split at taken
    · rename_i colon
      cases taken
      rw [same, found, colon]
    · cases taken

theorem Frame.IsLead.blanks_append {frame : Frame} {blanks lead : Octets} (blank : AreBlanks blanks)
    (isLead : frame.IsLead lead) : frame.IsLead (blanks ++ lead) := by
  cases frame with
  | list => exact blank.append isLead
  | object =>
      obtain ⟨front, name, beforeColon, afterColon, blankFront, quoted, blank', blank'', rfl⟩ :=
        isLead
      exact ⟨blanks ++ front, name, beforeColon, afterColon, blank.append blankFront, quoted,
        blank', blank'', (List.append_assoc ..).symm⟩

theorem exists_isLead {frame : Frame} {input rest : Octets} (entered : frame.enter input = .ok rest)
    {blanks : Octets} (blank : AreBlanks blanks) :
    ∃ lead, frame.IsLead (lead ++ blanks) ∧ input = lead ++ rest := by
  cases frame with
  | list =>
      cases entered
      exact ⟨[], blank, rfl⟩
  | object =>
      obtain ⟨front, blankFront, same⟩ := exists_areBlanks input
      rw [Frame.enter, skipKey] at entered
      split at entered
      · cases entered
      · rename_i byte tail found
        split at entered
        · rename_i quote
          cases skipped : skipText .plain tail with
          | error failure =>
              rw [skipped] at entered
              cases entered
          | ok after =>
              rw [skipped] at entered
              obtain ⟨beforeColon, blank', rfl⟩ := exists_of_takeColon entered
              obtain ⟨name, rfl, quoted⟩ := exists_isQuoted skipped
              refine ⟨front ++ 0x22 :: (name ++ 0x22 :: (beforeColon ++ [0x3a])),
                ⟨front, name, beforeColon, blanks, blankFront, quoted, blank', blank, by simp⟩, ?_⟩
              rw [same, found, quote]
              simp
        · cases entered

/-- What passing over comes to, told by what it awaits. -/
def Passed : Awaiting → List Frame → Octets → Octets → Prop
  | .value, frames, input, rest => ∃ blanks value more, AreBlanks blanks ∧ IsValue value ∧
      Completes frames more ∧ input = blanks ++ (value ++ (more ++ rest))
  | .delimiter, frames, input, rest => ∃ more, Completes frames more ∧ input = more ++ rest

/-- Whatever is passed over is a value, with what completes the frames that were open. -/
theorem passed_of_skipOpen {awaiting : Awaiting} {frames : List Frame} {input rest : Octets}
    (skipped : skipOpen awaiting frames input = .ok rest) : Passed awaiting frames input rest := by
  fun_induction skipOpen awaiting frames input with
  | case1 input =>
      cases skipped
      exact ⟨[], .nil, rfl⟩
  | case2 => cases skipped
  | case3 input frame outer tail inner entered found ih =>
      obtain ⟨back, blank, same⟩ := exists_areBlanks input
      obtain ⟨blanks, value, more, blank', isValue, completes, rfl⟩ := ih skipped
      obtain ⟨lead, isLead, rfl⟩ := exists_isLead entered blank'
      obtain ⟨elements, more', parts, completes', joined⟩ :=
        completes.exists_elements isLead isValue
      refine ⟨_, .elements blank parts completes', ?_⟩
      have joined := congrArg (· ++ rest) joined
      simp only [List.append_assoc, List.cons_append] at joined
      rw [same, found]
      simp only [List.append_assoc, List.cons_append, joined]
  | case4 => cases skipped
  | case5 input frame outer tail found _ ih =>
      obtain ⟨back, blank, same⟩ := exists_areBlanks input
      obtain ⟨more, completes, rfl⟩ := ih skipped
      refine ⟨_, .closed blank completes, ?_⟩
      rw [same, found]
      simp
  | case6 => cases skipped
  | case7 => cases skipped
  | case8 => cases skipped
  | case9 input frames byte tail found frame opened after following ih =>
      obtain ⟨front, blank, same⟩ := exists_areBlanks input
      obtain ⟨blanks, blank', same'⟩ := exists_areBlanks tail
      obtain ⟨more, completes, rfl⟩ := ih skipped
      have isValue : IsValue (frame.opening :: (blanks ++ [frame.closing])) := .empty blank'
      refine ⟨front, _, more, blank, isValue, completes, ?_⟩
      rw [same, found, Frame.eq_opening opened, same', following]
      simp
  | case10 input frames byte tail found frame opened next after following stays inner entered ih =>
      obtain ⟨front, blank, same⟩ := exists_areBlanks input
      obtain ⟨between, blank', same'⟩ := exists_areBlanks tail
      obtain ⟨blanks, value, more, blank'', isValue, completes, rfl⟩ := ih skipped
      obtain ⟨lead, isLead, same''⟩ := exists_isLead entered blank''
      obtain ⟨elements, more', parts, completes', joined⟩ :=
        completes.exists_elements (isLead.blanks_append blank') isValue
      have isValue' : IsValue (frame.opening :: (elements ++ [frame.closing])) := .full parts
      refine ⟨front, _, more', blank, isValue', completes', ?_⟩
      have joined := congrArg (· ++ rest) joined
      simp only [List.append_assoc, List.cons_append] at joined
      rw [same, found, Frame.eq_opening opened, same', following, same'']
      simp only [List.append_assoc, List.cons_append, List.nil_append, joined]
  | case11 => cases skipped
  | case12 input frames byte tail found noFrame after taken ih =>
      obtain ⟨front, blank, same⟩ := exists_areBlanks input
      obtain ⟨more, completes, rfl⟩ := ih skipped
      obtain ⟨bytes, isScalar, rfl⟩ := exists_isScalar taken
      refine ⟨front, _, more, blank, .scalar isScalar, completes, ?_⟩
      rw [same, found]
      rfl
  | case13 => cases skipped

/-- Whatever is passed over is a value after blanks. -/
theorem exists_isValue {input rest : Octets} (skipped : skipValue input = .ok rest) :
    ∃ blanks value, AreBlanks blanks ∧ IsValue value ∧ input = blanks ++ (value ++ rest) := by
  obtain ⟨blanks, value, more, blank, isValue, completes, same⟩ := passed_of_skipOpen skipped
  cases completes
  exact ⟨blanks, value, blank, isValue, same⟩

end SessionGate.Json
