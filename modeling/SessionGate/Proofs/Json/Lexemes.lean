import Mathlib.Data.List.TakeWhile
import SessionGate.Proofs.Json.Written

/-!
# The grammar of the parts of a JSON text

What blanks, texts and numbers are, apart from any reader. A text may be read or passed over: both
end at the same closing quote, and reading takes a text exactly when its escapes spell something.
A number is passed over up to the first byte that cannot belong to it.
-/

namespace SessionGate.Json

/-! ## Blanks -/

/-- Blanks and nothing else. -/
def AreBlanks (bytes : Octets) : Prop :=
  ∀ byte ∈ bytes, isBlank byte = true

instance (bytes : Octets) : Decidable (AreBlanks bytes) :=
  List.decidableBAll (fun byte => isBlank byte = true) bytes

theorem areBlanks_nil : AreBlanks [] :=
  List.forall_mem_nil _

theorem AreBlanks.append {first second : Octets} (blank : AreBlanks first)
    (blank' : AreBlanks second) : AreBlanks (first ++ second) :=
  List.forall_mem_append.mpr ⟨blank, blank'⟩

theorem skipBlanks_append {blanks : Octets} (blank : AreBlanks blanks) (input : Octets) :
    skipBlanks (blanks ++ input) = skipBlanks input :=
  List.dropWhile_append_of_pos blank

theorem skipBlanks_of_areBlanks {blanks : Octets} (blank : AreBlanks blanks) :
    skipBlanks blanks = [] :=
  List.dropWhile_eq_nil_iff.mpr blank

/-- Blanks are passed over up to a byte that is none. -/
theorem skipBlanks_append_cons {blanks rest : Octets} {byte : UInt8} (blank : AreBlanks blanks)
    (visible : isBlank byte = false) : skipBlanks (blanks ++ byte :: rest) = byte :: rest := by
  rw [skipBlanks_append blank, skipBlanks_cons visible]

/-- The input is what `skipBlanks` leaves of it after some blanks. -/
theorem exists_areBlanks (input : Octets) :
    ∃ blanks, AreBlanks blanks ∧ input = blanks ++ skipBlanks input :=
  ⟨input.takeWhile isBlank, fun _ member => List.mem_takeWhile_imp member,
    List.takeWhile_append_dropWhile.symm⟩

theorem isBlank_of_skipBlanks {input rest : Octets} {byte : UInt8}
    (found : skipBlanks input = byte :: rest) : isBlank byte = false := by
  have visible := List.head?_dropWhile_not isBlank input
  rw [show input.dropWhile isBlank = byte :: rest from found] at visible
  simpa using visible

/-! ## Texts that are passed over -/

/-- What stands between the quotes of a text: bytes that stand for themselves, escapes of one
letter, and escapes of four hexadecimal digits. -/
inductive IsQuoted : Octets → Prop
  | nil : IsQuoted []
  | plain {byte : UInt8} {rest : Octets} (plain : isPlainText byte = true) (more : IsQuoted rest) :
      IsQuoted (byte :: rest)
  | short {letter : UInt8} {rest : Octets} (known : (shortEscape? letter).isSome = true)
      (more : IsQuoted rest) : IsQuoted (0x5c :: letter :: rest)
  | long {digits rest : Octets} (four : digits.length = 4)
      (known : (hexValue? digits.reverse).isSome = true) (more : IsQuoted rest) :
      IsQuoted (0x5c :: 0x75 :: (digits ++ rest))

theorem isPlainText_iff {byte : UInt8} :
    isPlainText byte = true ↔ byte ≠ 0x22 ∧ byte ≠ 0x5c ∧ ¬ byte < 0x20 := by
  simp [isPlainText, and_assoc]

private theorem eq_of_length_four {digits : Octets} (four : digits.length = 4) :
    ∃ a b c d, digits = [a, b, c, d] := by
  match digits, four with
  | [a, b, c, d], _ => exact ⟨a, b, c, d, rfl⟩

theorem skipText_digits {digits : Octets} (four : digits.length = 4)
    (known : (hexValue? digits.reverse).isSome = true) (rest : Octets) :
    skipText (.digits []) (digits ++ rest) = skipText .plain rest := by
  obtain ⟨a, b, c, d, rfl⟩ := eq_of_length_four four
  have known' : (hexValue? [d, c, b, a]).isSome = true := known
  simp [skipText, known']

/-- A text is passed over up to its closing quote. -/
theorem IsQuoted.skipText_eq {content : Octets} (quoted : IsQuoted content) (rest : Octets) :
    skipText .plain (content ++ 0x22 :: rest) = .ok rest := by
  induction quoted with
  | nil => rfl
  | @plain byte content plain _ ih =>
      obtain ⟨noQuote, noBackslash, noControl⟩ := isPlainText_iff.mp plain
      rw [List.cons_append, skipText, if_neg noQuote, if_neg noBackslash, if_neg noControl, ih]
  | @short letter content known _ ih =>
      have noUnit : letter ≠ 0x75 := by
        rintro rfl
        exact absurd known (by decide)
      rw [List.cons_append, List.cons_append, skipText, if_neg (by decide), if_pos rfl, skipText,
        if_neg noUnit, if_pos known, ih]
  | long four known _ ih =>
      rw [List.cons_append, List.cons_append, List.append_assoc, skipText, if_neg (by decide),
        if_pos rfl, skipText, if_pos rfl, skipText_digits four known, ih]

/-- What has been read of an escape in each state of passing over a text. -/
inductive SkipState.Opens : SkipState → Octets → Prop
  | plain : Opens .plain []
  | escape : Opens .escape [0x5c]
  | digits {taken : Octets} (few : taken.length < 4) :
      Opens (.digits taken) (0x5c :: 0x75 :: taken.reverse)

/-- What is passed over is a text, together with what has been read of it. -/
theorem exists_isQuoted_of_opens {state : SkipState} {opening input rest : Octets}
    (opens : state.Opens opening) (skipped : skipText state input = .ok rest) :
    ∃ content, input = content ++ 0x22 :: rest ∧ IsQuoted (opening ++ content) := by
  fun_induction skipText state input generalizing opening with
  | case1 => cases skipped
  | case2 tail =>
      cases opens
      cases skipped
      exact ⟨[], rfl, .nil⟩
  | case3 tail _ ih =>
      cases opens
      obtain ⟨content, rfl, quoted⟩ := ih .escape skipped
      exact ⟨0x5c :: content, rfl, quoted⟩
  | case4 => cases skipped
  | case5 byte tail noQuote noBackslash noControl ih =>
      cases opens
      obtain ⟨content, rfl, quoted⟩ := ih .plain skipped
      exact ⟨byte :: content, rfl,
        .plain (isPlainText_iff.mpr ⟨noQuote, noBackslash, noControl⟩) quoted⟩
  | case6 tail ih =>
      cases opens
      obtain ⟨content, rfl, quoted⟩ := ih (.digits (by simp)) skipped
      exact ⟨0x75 :: content, rfl, quoted⟩
  | case7 byte tail _ known ih =>
      cases opens
      obtain ⟨content, rfl, quoted⟩ := ih .plain skipped
      exact ⟨byte :: content, rfl, .short known quoted⟩
  | case8 => cases skipped
  | case9 taken byte tail few ih =>
      cases opens
      obtain ⟨content, rfl, quoted⟩ := ih (.digits (Nat.succ_lt_succ few)) skipped
      refine ⟨byte :: content, rfl, ?_⟩
      simpa using quoted
  | case10 taken byte tail notFewer known ih =>
      obtain ⟨few⟩ := opens
      obtain ⟨content, rfl, quoted⟩ := ih .plain skipped
      refine ⟨byte :: content, rfl, ?_⟩
      have four : (byte :: taken).reverse.length = 4 := by
        rw [List.length_reverse, List.length_cons]
        omega
      have long := IsQuoted.long four (by rwa [List.reverse_reverse]) quoted
      simpa using long
  | case11 => cases skipped

theorem exists_isQuoted {input rest : Octets} (skipped : skipText .plain input = .ok rest) :
    ∃ content, input = content ++ 0x22 :: rest ∧ IsQuoted content :=
  exists_isQuoted_of_opens .plain skipped

/-! ## Texts that are read -/

/-- Four hexadecimal digits and their value. -/
def IsUnit (digits : Octets) (unit : Nat) : Prop :=
  digits.length = 4 ∧ hexValue? digits.reverse = some unit

/-- The first half of a surrogate pair. -/
def IsLeading (unit : Nat) : Prop :=
  0xd800 ≤ unit ∧ unit ≤ 0xdbff

/-- The second half of a surrogate pair. -/
def IsTrailing (unit : Nat) : Prop :=
  0xdc00 ≤ unit ∧ unit ≤ 0xdfff

/-- The character that a surrogate pair stands for. -/
def pairedCharacter (leading trailing : Nat) : Char :=
  Char.ofNat (0x10000 + (leading - 0xd800) * 0x400 + (trailing - 0xdc00))

/-- What stands between the quotes of a text, and the bytes that it spells. Surrogates come in
pairs. -/
inductive Spells : Octets → Octets → Prop
  | nil : Spells [] []
  | plain {byte : UInt8} {written bytes : Octets} (plain : isPlainText byte = true)
      (more : Spells written bytes) : Spells (byte :: written) (byte :: bytes)
  | short {letter meant : UInt8} {written bytes : Octets} (known : shortEscape? letter = some meant)
      (more : Spells written bytes) : Spells (0x5c :: letter :: written) (meant :: bytes)
  | long {digits written bytes : Octets} {unit : Nat} (known : IsUnit digits unit)
      (alone : ¬ IsLeading unit ∧ ¬ IsTrailing unit) (more : Spells written bytes) :
      Spells (0x5c :: 0x75 :: (digits ++ written))
        (String.utf8EncodeChar (Char.ofNat unit) ++ bytes)
  | pair {digits digits' written bytes : Octets} {leading trailing : Nat}
      (first : IsUnit digits leading) (isLeading : IsLeading leading)
      (second : IsUnit digits' trailing) (isTrailing : IsTrailing trailing)
      (more : Spells written bytes) :
      Spells (0x5c :: 0x75 :: (digits ++ 0x5c :: 0x75 :: (digits' ++ written)))
        (String.utf8EncodeChar (pairedCharacter leading trailing) ++ bytes)

theorem Spells.isQuoted {written bytes : Octets} (spells : Spells written bytes) :
    IsQuoted written := by
  induction spells with
  | nil => exact .nil
  | plain plain _ ih => exact .plain plain ih
  | short known _ ih => exact .short (by simp [known]) ih
  | long known _ _ ih => exact .long known.1 (by simp [known.2]) ih
  | pair first _ second _ _ ih =>
      exact .long first.1 (by simp [first.2]) (.long second.1 (by simp [second.2]) ih)

/-- A text without escapes spells itself. -/
theorem spells_of_plain {bytes : Octets} (plain : bytes.all isPlainText = true) :
    Spells bytes bytes := by
  induction bytes with
  | nil => exact .nil
  | cons byte bytes ih =>
      obtain ⟨first, others⟩ := Bool.and_eq_true_iff.mp plain
      exact .plain first (ih others)

theorem closeEscape_of_alone {digits : Octets} {unit : Nat} (known : IsUnit digits unit)
    (alone : ¬ IsLeading unit ∧ ¬ IsTrailing unit) :
    closeEscape none digits.reverse =
      .ok (.plain, String.utf8EncodeChar (Char.ofNat unit)) := by
  obtain ⟨notLeading, notTrailing⟩ := alone
  rw [IsLeading] at notLeading
  rw [IsTrailing] at notTrailing
  simp only [closeEscape, known.2, notLeading, notTrailing, if_false]

theorem closeEscape_of_leading {digits : Octets} {unit : Nat} (known : IsUnit digits unit)
    (isLeading : IsLeading unit) :
    closeEscape none digits.reverse = .ok (.pairBackslash unit, []) := by
  have notTrailing : ¬ (0xdc00 ≤ unit ∧ unit ≤ 0xdfff) := by
    have := isLeading.2
    omega
  rw [IsLeading] at isLeading
  simp only [closeEscape, known.2, notTrailing, isLeading, if_false, if_true, and_self]

theorem closeEscape_of_trailing {digits : Octets} {leading trailing : Nat}
    (known : IsUnit digits trailing) (isTrailing : IsTrailing trailing) :
    closeEscape (some leading) digits.reverse =
      .ok (.plain, String.utf8EncodeChar (pairedCharacter leading trailing)) := by
  rw [IsTrailing] at isTrailing
  simp only [closeEscape, known.2, isTrailing, if_true, and_self, pairedCharacter]

/-- What four digits come to: the state and bytes that close the escape. -/
theorem takeText_digits {leading : Option Nat} {digits bytes : Octets} {state : TextState}
    (four : digits.length = 4) (closes : closeEscape leading digits.reverse = .ok (state, bytes))
    (reversed rest : Octets) :
    takeText (.digits leading []) reversed (digits ++ rest) =
      takeText state (bytes.reverse ++ reversed) rest := by
  obtain ⟨a, b, c, d, rfl⟩ := eq_of_length_four four
  have closes' : closeEscape leading [d, c, b, a] = .ok (state, bytes) := closes
  simp [takeText, closes']

/-- A text that spells something is read as that. -/
theorem Spells.takeText_eq {written bytes : Octets} (spells : Spells written bytes)
    (reversed rest : Octets) :
    takeText .plain reversed (written ++ 0x22 :: rest) = .ok (reversed.reverse ++ bytes, rest) := by
  have backslash (reversed input : Octets) :
      takeText .plain reversed (0x5c :: input) = takeText .escape reversed input := rfl
  have unit (reversed input : Octets) :
      takeText .escape reversed (0x75 :: input) = takeText (.digits none []) reversed input := rfl
  induction spells generalizing reversed with
  | nil => simp [takeText]
  | @plain byte written bytes plain _ ih =>
      obtain ⟨noQuote, noBackslash, noControl⟩ := isPlainText_iff.mp plain
      rw [List.cons_append, takeText, if_neg noQuote, if_neg noBackslash, if_neg noControl, ih]
      simp
  | @short letter meant written bytes known _ ih =>
      have noUnit : letter ≠ 0x75 := by
        rintro rfl
        cases known
      rw [List.cons_append, List.cons_append, backslash, takeText, if_neg noUnit, known]
      dsimp only
      rw [ih]
      simp
  | long known alone _ ih =>
      rw [List.cons_append, List.cons_append, List.append_assoc, backslash, unit,
        takeText_digits known.1 (closeEscape_of_alone known alone), ih]
      simp
  | @pair digits digits' written bytes leading trailing first isLeading second isTrailing _ ih =>
      have between (reversed input : Octets) :
          takeText (.pairBackslash leading) reversed (0x5c :: 0x75 :: input) =
            takeText (.digits (some leading) []) reversed input := rfl
      simp only [List.cons_append, List.append_assoc]
      rw [backslash, unit, takeText_digits first.1 (closeEscape_of_leading first isLeading),
        between, takeText_digits second.1 (closeEscape_of_trailing second isTrailing), ih]
      simp

/-- What has been read of an escape in each state of reading a text. -/
inductive TextState.Opens : TextState → Octets → Prop
  | plain : Opens .plain []
  | escape : Opens .escape [0x5c]
  | digits {taken : Octets} (few : taken.length < 4) :
      Opens (.digits none taken) (0x5c :: 0x75 :: taken.reverse)
  | pairBackslash {digits : Octets} {leading : Nat} (first : IsUnit digits leading)
      (isLeading : IsLeading leading) : Opens (.pairBackslash leading) (0x5c :: 0x75 :: digits)
  | pairLetter {digits : Octets} {leading : Nat} (first : IsUnit digits leading)
      (isLeading : IsLeading leading) :
      Opens (.pairLetter leading) (0x5c :: 0x75 :: (digits ++ [0x5c]))
  | pairDigits {digits taken : Octets} {leading : Nat} (first : IsUnit digits leading)
      (isLeading : IsLeading leading) (few : taken.length < 4) :
      Opens (.digits (some leading) taken)
        (0x5c :: 0x75 :: (digits ++ 0x5c :: 0x75 :: taken.reverse))

theorem closeEscape_eq_ok {leading : Option Nat} {reversed bytes : Octets} {state : TextState}
    (closes : closeEscape leading reversed = .ok (state, bytes)) :
    ∃ unit, hexValue? reversed = some unit ∧
      ((leading = none ∧ IsLeading unit ∧ state = .pairBackslash unit ∧ bytes = []) ∨
        (leading = none ∧ (¬ IsLeading unit ∧ ¬ IsTrailing unit) ∧ state = .plain ∧
          bytes = String.utf8EncodeChar (Char.ofNat unit)) ∨
        ∃ first, leading = some first ∧ IsTrailing unit ∧ state = .plain ∧
          bytes = String.utf8EncodeChar (pairedCharacter first unit)) := by
  unfold closeEscape at closes
  split at closes
  · cases closes
  · rename_i unit value
    refine ⟨unit, value, ?_⟩
    split at closes
    · cases closes
    · rename_i notTrailing
      split at closes
      · rename_i isLeading
        cases closes
        exact .inl ⟨rfl, isLeading, rfl, rfl⟩
      · rename_i notLeading
        cases closes
        exact .inr (.inl ⟨rfl, ⟨notLeading, notTrailing⟩, rfl, rfl⟩)
  · rename_i unit first value
    refine ⟨unit, value, ?_⟩
    split at closes
    · rename_i isTrailing
      cases closes
      exact .inr (.inr ⟨first, rfl, isTrailing, rfl, rfl⟩)
    · cases closes

/-- What is read has been spelled, together with what has been read of an escape before. -/
theorem exists_spells_of_opens {state : TextState} {opening reversed input bytes rest : Octets}
    (opens : state.Opens opening) (taken : takeText state reversed input = .ok (bytes, rest)) :
    ∃ written more, input = written ++ 0x22 :: rest ∧ bytes = reversed.reverse ++ more ∧
      Spells (opening ++ written) more := by
  fun_induction takeText state reversed input generalizing opening with
  | case1 => cases taken
  | case2 reversed tail =>
      cases opens
      cases taken
      exact ⟨[], [], rfl, (List.append_nil _).symm, .nil⟩
  | case3 reversed tail _ ih =>
      cases opens
      obtain ⟨written, more, rfl, rfl, spells⟩ := ih .escape taken
      exact ⟨0x5c :: written, more, rfl, rfl, spells⟩
  | case4 => cases taken
  | case5 reversed byte tail noQuote noBackslash noControl ih =>
      cases opens
      obtain ⟨written, more, rfl, rfl, spells⟩ := ih .plain taken
      exact ⟨byte :: written, byte :: more, rfl, by simp,
        .plain (isPlainText_iff.mpr ⟨noQuote, noBackslash, noControl⟩) spells⟩
  | case6 reversed tail ih =>
      cases opens
      obtain ⟨written, more, rfl, rfl, spells⟩ := ih (.digits (by simp)) taken
      exact ⟨0x75 :: written, more, rfl, rfl, spells⟩
  | case7 reversed byte tail _ meant known ih =>
      cases opens
      obtain ⟨written, more, rfl, rfl, spells⟩ := ih .plain taken
      exact ⟨byte :: written, meant :: more, rfl, by simp, .short known spells⟩
  | case8 => cases taken
  | case9 leading digits reversed byte tail few ih =>
      have fewer : (byte :: digits).length < 4 := Nat.succ_lt_succ few
      cases opens with
      | digits =>
          obtain ⟨written, more, rfl, rfl, spells⟩ := ih (.digits fewer) taken
          exact ⟨byte :: written, more, rfl, rfl, by simpa using spells⟩
      | pairDigits first isLeading =>
          obtain ⟨written, more, rfl, rfl, spells⟩ := ih (.pairDigits first isLeading fewer) taken
          exact ⟨byte :: written, more, rfl, rfl, by simpa using spells⟩
  | case10 leading digits reversed byte tail notFewer state bytes closes ih =>
      obtain ⟨unit, value, closed⟩ := closeEscape_eq_ok closes
      have isUnit (few : digits.length < 4) : IsUnit (byte :: digits).reverse unit := by
        refine ⟨?_, by rwa [List.reverse_reverse]⟩
        rw [List.length_reverse, List.length_cons]
        omega
      cases opens with
      | digits few =>
          obtain ⟨-, isLeading, rfl, rfl⟩ | ⟨-, alone, rfl, rfl⟩ | ⟨first, other, -⟩ := closed
          · obtain ⟨written, more, rfl, rfl, spells⟩ :=
              ih (.pairBackslash (isUnit few) isLeading) taken
            exact ⟨byte :: written, more, rfl, rfl, by simpa using spells⟩
          · obtain ⟨written, more, rfl, rfl, spells⟩ := ih .plain taken
            have long := Spells.long (isUnit few) alone spells
            exact ⟨byte :: written, String.utf8EncodeChar (Char.ofNat unit) ++ more, rfl,
              by simp only [List.reverse_append, List.reverse_reverse, List.append_assoc],
              by simpa using long⟩
          · cases other
      | pairDigits first isLeading few =>
          obtain ⟨other, -⟩ | ⟨other, -⟩ | ⟨leading, same, isTrailing, rfl, encoded⟩ := closed
          · cases other
          · cases other
          · cases same
            obtain ⟨written, more, rfl, rfl, spells⟩ := ih .plain taken
            have pair := Spells.pair first isLeading (isUnit few) isTrailing spells
            rw [← encoded] at pair
            exact ⟨byte :: written, bytes ++ more, rfl,
              by simp only [List.reverse_append, List.reverse_reverse, List.append_assoc],
              by simpa using pair⟩
  | case11 => cases taken
  | case12 leading reversed tail ih =>
      obtain _ | _ | _ | ⟨first, isLeading⟩ := opens
      obtain ⟨written, more, rfl, rfl, spells⟩ := ih (.pairLetter first isLeading) taken
      exact ⟨0x5c :: written, more, rfl, rfl, by simpa using spells⟩
  | case13 => cases taken
  | case14 leading reversed tail ih =>
      obtain _ | _ | _ | _ | ⟨first, isLeading⟩ := opens
      obtain ⟨written, more, rfl, rfl, spells⟩ := ih (.pairDigits first isLeading (by simp)) taken
      exact ⟨0x75 :: written, more, rfl, rfl, by simpa using spells⟩
  | case15 => cases taken

/-- A text is read as what its escapes spell. -/
theorem readText_eq_ok_iff {input rest : Octets} {text : String} :
    readText input = .ok (text, rest) ↔
      ∃ written, input = written ++ 0x22 :: rest ∧ Spells written (Octets.ofText text) := by
  constructor
  · intro read
    rw [readText] at read
    cases taken : takeText .plain [] input with
    | error failure =>
        rw [taken] at read
        cases read
    | ok pair =>
        obtain ⟨bytes, after⟩ := pair
        obtain ⟨written, more, rfl, rfl, spells⟩ := exists_spells_of_opens .plain taken
        rw [taken] at read
        simp only [bind, Except.bind] at read
        split at read
        · rename_i found same
          cases read
          rw [← Octets.toText?_eq_some_iff.mp same]
          exact ⟨written, rfl, spells⟩
        · cases read
  · rintro ⟨written, rfl, spells⟩
    rw [readText, spells.takeText_eq]
    simp [bind, Except.bind, Octets.toText?_ofText]

/-- A text that is read ends where it would end if it were passed over. -/
theorem skipText_of_readText {input rest : Octets} {text : String}
    (read : readText input = .ok (text, rest)) : skipText .plain input = .ok rest := by
  obtain ⟨written, rfl, spells⟩ := readText_eq_ok_iff.mp read
  exact spells.isQuoted.skipText_eq rest

/-- A text spells one thing only. -/
theorem Spells.unique {written : Octets} {text text' : String}
    (spells : Spells written (Octets.ofText text))
    (spells' : Spells written (Octets.ofText text')) : text = text' := by
  have read : readText (written ++ [0x22]) = .ok (text, []) :=
    readText_eq_ok_iff.mpr ⟨written, rfl, spells⟩
  have read' : readText (written ++ [0x22]) = .ok (text', []) :=
    readText_eq_ok_iff.mpr ⟨written, rfl, spells'⟩
  exact congrArg Prod.fst (Except.ok.inj (read.symm.trans read'))

/-! ## Numbers -/

/-- One digit or more. -/
def AreDigits (bytes : Octets) : Prop :=
  bytes ≠ [] ∧ ∀ byte ∈ bytes, isDigit byte = true

/-- The whole part of a number: zero, or digits of which the first is not zero. -/
def IsWhole (bytes : Octets) : Prop :=
  bytes = [0x30] ∨ AreDigits bytes ∧ bytes.head? ≠ some 0x30

/-- The places of a number: none, or a point and digits. -/
def ArePlaces (bytes : Octets) : Prop :=
  bytes = [] ∨ ∃ digits, AreDigits digits ∧ bytes = 0x2e :: digits

/-- The exponent of a number: none, or its letter, a sign or none, and digits. -/
def IsExponent (bytes : Octets) : Prop :=
  bytes = [] ∨ ∃ letter sign digits, (letter = 0x65 ∨ letter = 0x45) ∧
    (sign = [] ∨ sign = [0x2b] ∨ sign = [0x2d]) ∧ AreDigits digits ∧
    bytes = letter :: (sign ++ digits)

/-- A number without its sign. -/
def IsUnsigned (bytes : Octets) : Prop :=
  ∃ whole places exponent, IsWhole whole ∧ ArePlaces places ∧ IsExponent exponent ∧
    bytes = whole ++ (places ++ exponent)

theorem dropWhile_digits {digits rest : Octets} (all : ∀ byte ∈ digits, isDigit byte = true)
    (stops : startsWithDigit rest = false) : (digits ++ rest).dropWhile isDigit = rest := by
  rw [List.dropWhile_append_of_pos all]
  cases rest with
  | nil => rfl
  | cons byte rest =>
      have notDigit : isDigit byte = false := stops
      rw [List.dropWhile_cons_of_neg (by simp [notDigit])]

theorem skipExponentDigits_append {digits rest : Octets} (areDigits : AreDigits digits)
    (stops : startsWithDigit rest = false) : skipExponentDigits (digits ++ rest) = .ok rest := by
  obtain ⟨some, all⟩ := areDigits
  cases digits with
  | nil => exact absurd rfl some
  | cons first digits =>
      obtain ⟨digit, others⟩ := List.forall_mem_cons.mp all
      rw [List.cons_append, skipExponentDigits, if_pos digit, dropWhile_digits others stops]

theorem skipSign_digits {digits : Octets} (areDigits : AreDigits digits) (rest : Octets) :
    skipSign (digits ++ rest) = digits ++ rest := by
  obtain ⟨some, all⟩ := areDigits
  cases digits with
  | nil => exact absurd rfl some
  | cons first digits =>
      have noSign : (first = 0x2b || first = 0x2d) = false := by
        have digit := all first List.mem_cons_self
        rw [Bool.or_eq_false_iff, decide_eq_false_iff_not, decide_eq_false_iff_not]
        constructor <;> rintro rfl <;> exact absurd digit (by decide)
      rw [List.cons_append, skipSign, if_neg (by simp [noSign])]

theorem skipExponent_append {sign digits rest : Octets}
    (isSign : sign = [] ∨ sign = [0x2b] ∨ sign = [0x2d]) (areDigits : AreDigits digits)
    (stops : startsWithDigit rest = false) :
    skipExponent (sign ++ digits ++ rest) = .ok rest := by
  have unsigned : skipSign (sign ++ digits ++ rest) = digits ++ rest := by
    rcases isSign with rfl | rfl | rfl
    · exact skipSign_digits areDigits rest
    · rfl
    · rfl
  rw [skipExponent, unsigned, skipExponentDigits_append areDigits stops]

theorem EndsNumber.startsWithDigit {rest : Octets} (ends : EndsNumber rest) :
    startsWithDigit rest = false := by
  cases rest with
  | nil => rfl
  | cons byte rest => exact ends.1

/-- What begins with an exponent, or ends the number, goes on with neither a digit nor a point. -/
theorem IsExponent.stops {exponent rest : Octets} (isExponent : IsExponent exponent)
    (ends : EndsNumber rest) :
    startsWithDigit (exponent ++ rest) = false ∧ (exponent ++ rest).head? ≠ some 0x2e := by
  rcases isExponent with rfl | ⟨letter, sign, digits, isLetter, -, -, rfl⟩
  · refine ⟨ends.startsWithDigit, ?_⟩
    cases rest with
    | nil => simp
    | cons byte rest => simpa using ends.2.1
  · rcases isLetter with rfl | rfl <;> exact ⟨rfl, by simp⟩

theorem skipPlaces_exponent {exponent rest : Octets} (isExponent : IsExponent exponent)
    (ends : EndsNumber rest) : skipPlaces (exponent ++ rest) = .ok rest := by
  rcases isExponent with rfl | ⟨letter, sign, digits, isLetter, isSign, areDigits, rfl⟩
  · cases rest with
    | nil => rfl
    | cons byte rest =>
        obtain ⟨-, noPoint, noSmall, noGreat⟩ := ends
        simp [skipPlaces, noPoint, noSmall, noGreat]
  · have noPoint : letter ≠ 0x2e := by rcases isLetter with rfl | rfl <;> decide
    have isExponent : (letter = 0x65 || letter = 0x45) = true := by simpa using isLetter
    rw [List.cons_append]
    unfold skipPlaces
    simp only [noPoint, isExponent, if_false, if_true]
    exact skipExponent_append isSign areDigits ends.startsWithDigit

/-- Places are passed over up to what follows them. -/
theorem skipPlaces_point {digits tail : Octets} (areDigits : AreDigits digits)
    (stops : startsWithDigit tail = false) (noPoint : tail.head? ≠ some 0x2e) :
    skipPlaces (0x2e :: digits ++ tail) = skipPlaces tail := by
  obtain ⟨some, all⟩ := areDigits
  cases digits with
  | nil => exact absurd rfl some
  | cons first digits =>
      obtain ⟨digit, others⟩ := List.forall_mem_cons.mp all
      rw [List.cons_append, List.cons_append, skipPlaces]
      simp only [if_true, digit, dropWhile_digits others stops]
      cases tail with
      | nil => rfl
      | cons byte tail =>
          have other : byte ≠ 0x2e := by simpa using noPoint
          unfold skipPlaces
          simp only [other, if_false]

theorem skipNumber_whole {whole tail : Octets} (isWhole : IsWhole whole)
    (stops : startsWithDigit tail = false) : skipNumber (whole ++ tail) = skipPlaces tail := by
  rcases isWhole with rfl | ⟨⟨some, all⟩, notZero⟩
  · simp [skipNumber, stops]
  · cases whole with
    | nil => exact absurd rfl some
    | cons first digits =>
        obtain ⟨digit, others⟩ := List.forall_mem_cons.mp all
        have other : first ≠ 0x30 := by simpa using notZero
        rw [List.cons_append, skipNumber, if_neg other, if_pos digit, dropWhile_digits others stops]

/-- A number is passed over up to a byte that ends it. -/
theorem IsUnsigned.skipNumber_eq {bytes rest : Octets} (unsigned : IsUnsigned bytes)
    (ends : EndsNumber rest) : skipNumber (bytes ++ rest) = .ok rest := by
  obtain ⟨whole, places, exponent, isWhole, arePlaces, isExponent, rfl⟩ := unsigned
  obtain ⟨stops, noPoint⟩ := isExponent.stops ends
  have tail : startsWithDigit (places ++ (exponent ++ rest)) = false ∧
      skipPlaces (places ++ (exponent ++ rest)) = .ok rest := by
    rcases arePlaces with rfl | ⟨digits, areDigits, rfl⟩
    · exact ⟨stops, skipPlaces_exponent isExponent ends⟩
    · refine ⟨rfl, ?_⟩
      rw [skipPlaces_point areDigits stops noPoint, skipPlaces_exponent isExponent ends]
  rw [List.append_assoc, List.append_assoc, skipNumber_whole isWhole tail.1, tail.2]

theorem exists_areDigits {first : UInt8} (digit : isDigit first = true) (rest : Octets) :
    ∃ digits, AreDigits (first :: digits) ∧ rest = digits ++ rest.dropWhile isDigit := by
  refine ⟨rest.takeWhile isDigit, ⟨List.cons_ne_nil _ _, ?_⟩,
    List.takeWhile_append_dropWhile.symm⟩
  exact List.forall_mem_cons.mpr ⟨digit, fun _ member => List.mem_takeWhile_imp member⟩

theorem exists_of_skipExponent {input rest : Octets} (skipped : skipExponent input = .ok rest) :
    ∃ sign digits, (sign = [] ∨ sign = [0x2b] ∨ sign = [0x2d]) ∧ AreDigits digits ∧
      input = sign ++ digits ++ rest := by
  have unsigned : ∃ sign, (sign = [] ∨ sign = [0x2b] ∨ sign = [0x2d]) ∧
      input = sign ++ skipSign input := by
    cases input with
    | nil => exact ⟨[], .inl rfl, rfl⟩
    | cons byte tail =>
        rw [skipSign]
        split
        · rename_i isSign
          have isSign : byte = 0x2b ∨ byte = 0x2d := by simpa using isSign
          exact ⟨[byte], .inr (by simpa using isSign), rfl⟩
        · exact ⟨[], .inl rfl, rfl⟩
  obtain ⟨sign, isSign, same⟩ := unsigned
  rw [skipExponent] at skipped
  generalize skipSign input = input' at skipped same
  subst same
  cases input' with
  | nil => cases skipped
  | cons first tail =>
      rw [skipExponentDigits] at skipped
      split at skipped
      · rename_i digit
        cases skipped
        obtain ⟨digits, areDigits, same⟩ := exists_areDigits digit tail
        refine ⟨sign, first :: digits, isSign, areDigits, ?_⟩
        rw [List.append_assoc, List.cons_append, ← same]
      · cases skipped

theorem exists_of_skipPlaces {input rest : Octets} (skipped : skipPlaces input = .ok rest) :
    ∃ places exponent, ArePlaces places ∧ IsExponent exponent ∧
      input = places ++ (exponent ++ rest) := by
  have exponents {letter : UInt8} {input : Octets}
      (isLetter : (letter = 0x65 || letter = 0x45) = true)
      (skipped : skipExponent input = .ok rest) :
      ∃ exponent, IsExponent exponent ∧ letter :: input = exponent ++ rest := by
    obtain ⟨sign, digits, isSign, areDigits, rfl⟩ := exists_of_skipExponent skipped
    exact ⟨letter :: (sign ++ digits),
      .inr ⟨letter, sign, digits, by simpa using isLetter, isSign, areDigits, rfl⟩, rfl⟩
  unfold skipPlaces at skipped
  cases input with
  | nil =>
      cases skipped
      exact ⟨[], [], .inl rfl, .inl rfl, rfl⟩
  | cons mark tail =>
      simp only at skipped
      split at skipped
      · rename_i point
        subst point
        cases tail with
        | nil => cases skipped
        | cons first digits =>
            simp only at skipped
            split at skipped
            · rename_i digit
              obtain ⟨digits', areDigits, same⟩ := exists_areDigits digit digits
              have places : ArePlaces (0x2e :: first :: digits') := .inr ⟨_, areDigits, rfl⟩
              split at skipped
              · rename_i letter exponent after
                rw [after] at same
                subst same
                split at skipped
                · rename_i isLetter
                  obtain ⟨exponent', isExponent, same⟩ := exponents isLetter skipped
                  exact ⟨_, exponent', places, isExponent, by rw [same]; rfl⟩
                · cases skipped
                  exact ⟨_, [], places, .inl rfl, rfl⟩
              · rename_i after
                rw [after] at same
                cases skipped
                exact ⟨_, [], places, .inl rfl, by rw [same]; rfl⟩
            · cases skipped
      · split at skipped
        · rename_i isLetter
          obtain ⟨exponent, isExponent, same⟩ := exponents isLetter skipped
          exact ⟨[], exponent, .inl rfl, isExponent, same⟩
        · cases skipped
          exact ⟨[], [], .inl rfl, .inl rfl, rfl⟩

/-- What is passed over as a number is one. -/
theorem exists_isUnsigned {input rest : Octets} (skipped : skipNumber input = .ok rest) :
    ∃ bytes, IsUnsigned bytes ∧ input = bytes ++ rest := by
  have parts {whole tail : Octets} (isWhole : IsWhole whole)
      (skipped : skipPlaces tail = .ok rest) :
      ∃ bytes, IsUnsigned bytes ∧ whole ++ tail = bytes ++ rest := by
    obtain ⟨places, exponent, arePlaces, isExponent, rfl⟩ := exists_of_skipPlaces skipped
    refine ⟨_, ⟨whole, places, exponent, isWhole, arePlaces, isExponent, rfl⟩, ?_⟩
    simp only [List.append_assoc]
  cases input with
  | nil => cases skipped
  | cons first tail =>
      rw [skipNumber] at skipped
      split at skipped
      · rename_i zero
        subst zero
        split at skipped
        · cases skipped
        · exact parts (.inl rfl) skipped
      · rename_i notZero
        split at skipped
        · rename_i digit
          obtain ⟨digits, areDigits, same⟩ := exists_areDigits digit tail
          rw [same, ← List.cons_append]
          exact parts (.inr ⟨areDigits, by simpa using notZero⟩) skipped
        · cases skipped

end SessionGate.Json
