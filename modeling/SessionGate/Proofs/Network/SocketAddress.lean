import Mathlib.Data.List.TakeWhile
import Mathlib.Data.Nat.Digits.Defs
import SessionGate.Network.SocketAddress

/-!
# Texts of socket addresses

Which texts are socket addresses, by a grammar of their own. A reader takes all the digits there
are, tries an embedded address of version four before every group, and stops at two colons. It
reads exactly the texts of the grammar, although it never goes back.
-/

namespace SessionGate.Network.SocketAddress

/-! ## Numbers -/

/-- The value of a digit, or zero. -/
def digitValue (base : Nat) (character : Char) : Nat :=
  (digitOf? base character).getD 0

/-- The characters are a number of the form. -/
structure NumberForm.IsWritten (form : NumberForm) (characters : List Char) (value : Nat) :
    Prop where
  nonempty : characters ≠ []
  digits : ∀ character ∈ characters, (digitOf? form.base character).isSome = true
  size : ∀ most, form.mostDigits = some most → characters.length ≤ most
  leading : form.allowsLeadingZeros = false → characters.head? = some '0' → characters.length = 1
  positional : value = Nat.ofDigits form.base (characters.reverse.map (digitValue form.base))
  fits : value ≤ form.greatest

/-- The characters do not begin with a digit of the base. -/
def StopsDigits (base : Nat) (characters : List Char) : Prop :=
  ∀ character ∈ characters.head?, digitOf? base character = none

variable {form : NumberForm} {input rest characters : List Char} {value : Nat}

theorem valueOf_eq (base : Nat) (digits : List Nat) :
    valueOf base digits = Nat.ofDigits base digits.reverse := by
  have shifted (start : Nat) : digits.foldl (fun value digit => value * base + digit) start =
      start * base ^ digits.length + Nat.ofDigits base digits.reverse := by
    induction digits generalizing start with
    | nil => simp
    | cons digit digits ih =>
        rw [List.foldl_cons, ih, List.reverse_cons, Nat.ofDigits_append, List.length_reverse,
          Nat.ofDigits_singleton, List.length_cons, Nat.pow_succ]
        ring
  rw [valueOf, shifted 0, Nat.zero_mul, Nat.zero_add]

/-- The digit zero is written in one way. -/
theorem eq_zero_iff_of_digitOf? {base digit : Nat} {character : Char}
    (found : digitOf? base character = some digit) : digit = 0 ↔ character = '0' := by
  have same : character = '0' ↔ character.toNat = 48 := by
    rw [show 48 = '0'.toNat from rfl, Char.toNat_inj]
  rw [same]
  simp only [digitOf?] at found
  split_ifs at found <;> simp only [Option.some.injEq] at found <;> omega

theorem filterMap_digitOf? {base : Nat}
    (digits : ∀ character ∈ characters, (digitOf? base character).isSome = true) :
    characters.filterMap (digitOf? base) = characters.map (digitValue base) := by
  induction characters with
  | nil => rfl
  | cons first rest ih =>
      obtain ⟨isDigit, others⟩ := List.forall_mem_cons.mp digits
      obtain ⟨value, found⟩ := Option.isSome_iff_exists.mp isDigit
      rw [List.filterMap_cons_some found, List.map_cons, ih others, digitValue, found]
      rfl

/-- Digits are admitted in a form as they are written. -/
theorem admits_iff
    (digits : ∀ character ∈ characters, (digitOf? form.base character).isSome = true) :
    form.admits (characters.map (digitValue form.base)) = true ↔
      characters ≠ [] ∧ (∀ most, form.mostDigits = some most → characters.length ≤ most) ∧
        (form.allowsLeadingZeros = false → characters.head? = some '0' →
          characters.length = 1) := by
  have zero : (characters.map (digitValue form.base)).head? = some 0 ↔
      characters.head? = some '0' := by
    cases characters with
    | nil => simp
    | cons first rest =>
        obtain ⟨value, found⟩ := Option.isSome_iff_exists.mp (digits first List.mem_cons_self)
        simp [digitValue, found, eq_zero_iff_of_digitOf? found]
  have size : form.mostDigits.all (characters.length ≤ ·) = true ↔
      ∀ most, form.mostDigits = some most → characters.length ≤ most := by
    cases form.mostDigits <;> simp
  have leading : (form.allowsLeadingZeros ||
      (characters.map (digitValue form.base)).head? != some 0 || characters.length == 1) = true ↔
      (form.allowsLeadingZeros = false → characters.head? = some '0' →
        characters.length = 1) := by
    rw [← zero]
    cases form.allowsLeadingZeros <;> simp [bne, imp_iff_not_or]
  rw [NumberForm.admits, List.length_map, Bool.and_eq_true, Bool.and_eq_true, size, leading,
    and_assoc]
  simp

/-- All the digits at the front of a text are told from what stands behind them. -/
theorem span_digits {base : Nat}
    (digits : ∀ character ∈ characters, (digitOf? base character).isSome = true)
    (stops : StopsDigits base rest) :
    (characters ++ rest).takeWhile (fun character => (digitOf? base character).isSome) =
        characters ∧
      (characters ++ rest).dropWhile (fun character => (digitOf? base character).isSome) =
        rest := by
  rw [List.takeWhile_append_of_pos digits, List.dropWhile_append_of_pos digits]
  cases rest with
  | nil => simp
  | cons first rest =>
      have notDigit := stops first rfl
      simp [notDigit]

theorem behind_digits_unique {base : Nat} {others behind : List Char}
    (digits : ∀ character ∈ characters, (digitOf? base character).isSome = true)
    (otherDigits : ∀ character ∈ others, (digitOf? base character).isSome = true)
    (stops : StopsDigits base rest) (otherStops : StopsDigits base behind)
    (same : characters ++ rest = others ++ behind) : rest = behind := by
  rw [← (span_digits digits stops).2, same, (span_digits otherDigits otherStops).2]

theorem isHexadecimal_of_isDecimal {character : Char}
    (isDecimal : (digitOf? 10 character).isSome = true) :
    (digitOf? 16 character).isSome = true := by
  simp only [digitOf?] at isDecimal ⊢
  split_ifs at isDecimal ⊢ <;> first | rfl | omega

/-- A number is taken with all the digits there are. -/
theorem takeNumber_eq_some_iff :
    takeNumber form input = some (value, rest) ↔
      ∃ characters, form.IsWritten characters value ∧ input = characters ++ rest ∧
        StopsDigits form.base rest := by
  have value_eq (characters : List Char) :
      valueOf form.base (characters.map (digitValue form.base)) =
        Nat.ofDigits form.base (characters.reverse.map (digitValue form.base)) := by
    rw [valueOf_eq, List.map_reverse]
  constructor
  · intro taken
    have digits : ∀ character ∈ input.takeWhile fun character =>
        (digitOf? form.base character).isSome, (digitOf? form.base character).isSome = true := by
      intro character member
      have isDigit := List.mem_takeWhile_imp member
      exact isDigit
    simp only [takeNumber] at taken
    rw [filterMap_digitOf? digits, value_eq] at taken
    split at taken
    · rename_i admitted
      obtain ⟨admits, fits⟩ := Bool.and_eq_true_iff.mp admitted
      obtain ⟨nonempty, size, leading⟩ := (admits_iff digits).mp admits
      cases taken
      refine ⟨_, ⟨nonempty, digits, size, leading, rfl, of_decide_eq_true fits⟩,
        List.takeWhile_append_dropWhile.symm, fun character member => ?_⟩
      have stops := List.head?_dropWhile_not
        (fun character => (digitOf? form.base character).isSome) input
      rw [Option.mem_def.mp member] at stops
      simpa using stops
    · cases taken
  · rintro ⟨characters, ⟨nonempty, digits, size, leading, rfl, fits⟩, rfl, stops⟩
    obtain ⟨front, behind⟩ := span_digits digits stops
    simp only [takeNumber]
    rw [front, behind, filterMap_digitOf? digits, value_eq, if_pos]
    rw [Bool.and_eq_true, decide_eq_true_iff]
    exact ⟨(admits_iff digits).mpr ⟨nonempty, size, leading⟩, fits⟩

theorem takeNumber_append (number : form.IsWritten characters value)
    (stops : StopsDigits form.base rest) :
    takeNumber form (characters ++ rest) = some (value, rest) :=
  takeNumber_eq_some_iff.mpr ⟨characters, number, rfl, stops⟩

theorem takeNumber_of_stopsDigits (stops : StopsDigits form.base input) :
    takeNumber form input = none := by
  rw [Option.eq_none_iff_forall_not_mem]
  rintro ⟨value, rest⟩ taken
  obtain ⟨characters, number, rfl, -⟩ := takeNumber_eq_some_iff.mp taken
  cases characters with
  | nil => exact number.nonempty rfl
  | cons first characters =>
      have isDigit := number.digits first List.mem_cons_self
      rw [stops first rfl] at isDigit
      cases isDigit

/-- The characters that divide the parts of an address are no digits. -/
theorem stopsDigits_cons {base : Nat} {first : Char} (divides : first ∈ ['.', ':', '%', '[', ']']) :
    StopsDigits base (first :: rest) := by
  rintro _ ⟨⟩
  simp only [List.mem_cons, List.not_mem_nil, or_false] at divides
  obtain rfl | rfl | rfl | rfl | rfl := divides <;> simp [digitOf?]

theorem NumberForm.IsWritten.toNat_toUInt8 (number : NumberForm.octet.IsWritten characters value) :
    value.toUInt8.toNat = value :=
  UInt8.toNat_ofNat_of_lt' (Nat.lt_succ_of_le number.fits)

theorem NumberForm.IsWritten.toNat_toUInt16 (number : form.IsWritten characters value)
    (small : form.greatest < 65536) : value.toUInt16.toNat = value :=
  UInt16.toNat_ofNat_of_lt' (Nat.lt_of_le_of_lt number.fits small)

theorem NumberForm.IsWritten.toNat_toUInt32
    (number : NumberForm.scope.IsWritten characters value) : value.toUInt32.toNat = value :=
  UInt32.toNat_ofNat_of_lt' (Nat.lt_succ_of_le number.fits)

/-! ## Separators -/

section Separators

variable {α : Type} {take : Taker α} {result : α} {separator : Char} {isFirst : Bool}

/-- What stands before a value behind a separator unless it is the first. -/
def lead (separator : Char) (isFirst : Bool) : List Char :=
  if isFirst then [] else [separator]

theorem takeCharacter_eq_some_iff {character : Char} {nothing : Unit} :
    takeCharacter character input = some (nothing, rest) ↔ input = character :: rest := by
  cases input with
  | nil => simp [takeCharacter]
  | cons first behind => simp [takeCharacter]

@[simp]
theorem takeCharacter_cons (character : Char) (rest : List Char) :
    takeCharacter character (character :: rest) = some ((), rest) :=
  takeCharacter_eq_some_iff.mpr rfl

theorem takeNext_eq_some_iff :
    takeNext separator isFirst take input = some (result, rest) ↔
      ∃ behind, input = lead separator isFirst ++ behind ∧ take behind = some (result, rest) := by
  cases isFirst with
  | true => simp [takeNext, lead]
  | false =>
      cases input with
      | nil => simp [takeNext, takeCharacter, lead]
      | cons first behind =>
          by_cases same : first = separator <;> simp [takeNext, takeCharacter, lead, same]

@[simp]
theorem takeNext_lead (separator : Char) (isFirst : Bool) (take : Taker α)
    (behind : List Char) :
    takeNext separator isFirst take (lead separator isFirst ++ behind) = take behind := by
  cases isFirst <;> simp [takeNext, lead]

theorem takeNext_eq_none (fails : ∀ behind, input = lead separator isFirst ++ behind →
    take behind = none) : takeNext separator isFirst take input = none := by
  rw [Option.eq_none_iff_forall_not_mem]
  rintro ⟨result, rest⟩ taken
  obtain ⟨behind, same, found⟩ := takeNext_eq_some_iff.mp taken
  rw [fails behind same] at found
  cases found

end Separators

/-! ## Version four -/

/-- The characters are four octets with dots between them. -/
inductive IsFour : List Char → Vector UInt8 4 → Prop
  | dotted {firstText secondText thirdText fourthText : List Char}
      {first second third fourth : UInt8}
      (isFirst : NumberForm.octet.IsWritten firstText first.toNat)
      (isSecond : NumberForm.octet.IsWritten secondText second.toNat)
      (isThird : NumberForm.octet.IsWritten thirdText third.toNat)
      (isFourth : NumberForm.octet.IsWritten fourthText fourth.toNat) :
      IsFour (firstText ++ '.' :: (secondText ++ '.' :: (thirdText ++ '.' :: fourthText)))
        #v[first, second, third, fourth]

variable {octets : Vector UInt8 4}

theorem takeFour_eq_some_iff :
    takeFour input = some (octets, rest) ↔
      ∃ characters, IsFour characters octets ∧ input = characters ++ rest ∧
        StopsDigits 10 rest := by
  constructor
  · intro taken
    simp only [takeFour, Option.bind_eq_bind, Option.bind_eq_some_iff, Prod.exists,
      takeNumber_eq_some_iff, takeNext_eq_some_iff] at taken
    obtain ⟨_, _, ⟨_, isFirst, rfl, -⟩, _, _, ⟨_, rfl, _, isSecond, rfl, -⟩,
      _, _, ⟨_, rfl, _, isThird, rfl, -⟩, _, _, ⟨_, rfl, _, isFourth, rfl, stops⟩, same⟩ := taken
    cases same
    rw [← isFirst.toNat_toUInt8] at isFirst
    rw [← isSecond.toNat_toUInt8] at isSecond
    rw [← isThird.toNat_toUInt8] at isThird
    rw [← isFourth.toNat_toUInt8] at isFourth
    exact ⟨_, .dotted isFirst isSecond isThird isFourth, by simp [lead], stops⟩
  · rintro ⟨_, isFour, rfl, stops⟩
    obtain @⟨first, second, third, fourth, _, _, _, _, isFirst, isSecond, isThird, isFourth⟩ :=
      isFour
    have dot (rest : List Char) : StopsDigits 10 (lead '.' false ++ rest) :=
      stopsDigits_cons (by decide)
    have parts : first ++ '.' :: (second ++ '.' :: (third ++ '.' :: fourth)) ++ rest =
        first ++ (lead '.' false ++ (second ++ (lead '.' false ++
          (third ++ (lead '.' false ++ (fourth ++ rest)))))) := by
      simp [lead]
    rw [parts, takeFour, takeNumber_append isFirst (dot _)]
    simp only [Option.bind_eq_bind, Option.bind_some, takeNext_lead,
      takeNumber_append isSecond (dot _), takeNumber_append isThird (dot _),
      takeNumber_append isFourth stops, Option.pure_def]
    simp

/-- Digits of a group are no octet if no dot stands behind them. -/
theorem takeFour_group (number : NumberForm.group.IsWritten characters value)
    (stops : StopsDigits 16 rest) (noDot : rest.head? ≠ some '.') :
    takeFour (characters ++ rest) = none := by
  rw [Option.eq_none_iff_forall_not_mem]
  rintro ⟨octets, behind⟩ taken
  obtain ⟨_, isFour, same, -⟩ := takeFour_eq_some_iff.mp taken
  obtain @⟨first, second, third, fourth, _, _, _, _, isFirst, -, -, -⟩ := isFour
  -- A decimal digit is a hexadecimal one too, so the first octet would be the whole group.
  have hexadecimal : ∀ character ∈ first, (digitOf? 16 character).isSome = true :=
    fun character member => isHexadecimal_of_isDecimal (isFirst.digits character member)
  have dot : rest = '.' :: (second ++ '.' :: (third ++ '.' :: fourth) ++ behind) :=
    behind_digits_unique number.digits hexadecimal stops (stopsDigits_cons (by decide))
      (by simpa using same)
  exact noDot (by rw [dot]; rfl)

/-! ## Version six -/

/-- The characters are groups with colons between them. The last two may be written as an address
of version four, and whether they are is told. -/
inductive AreGroups : Bool → List Char → List UInt16 → Prop
  | last {characters : List Char} {group : UInt16}
      (number : NumberForm.group.IsWritten characters group.toNat) :
      AreGroups false characters [group]
  | four {characters : List Char} {octets : Vector UInt8 4} (address : IsFour characters octets) :
      AreGroups true characters (groupsOf octets)
  | more {endsInFour : Bool} {characters rest : List Char} {group : UInt16}
      {groups : List UInt16} (number : NumberForm.group.IsWritten characters group.toNat)
      (others : AreGroups endsInFour rest groups) :
      AreGroups endsInFour (characters ++ ':' :: rest) (group :: groups)

/-- The characters are groups, or there are none. -/
inductive IsSide : Bool → List Char → List UInt16 → Prop
  | empty : IsSide false [] []
  | groups {endsInFour : Bool} {characters : List Char} {groups : List UInt16}
      (written : AreGroups endsInFour characters groups) : IsSide endsInFour characters groups

/-- What stands behind groups: two colons, or what closes the address. -/
inductive EndsGroups : List Char → Prop
  | zeros (rest : List Char) : EndsGroups (':' :: ':' :: rest)
  | scope (rest : List Char) : EndsGroups ('%' :: rest)
  | close (rest : List Char) : EndsGroups (']' :: rest)

variable {endsInFour isFirst : Bool} {groups : List UInt16} {room : Nat}

namespace EndsGroups

theorem stopsDigits (ends : EndsGroups rest) (base : Nat) : StopsDigits base rest := by
  cases ends <;> exact stopsDigits_cons (by decide)

theorem head?_ne_dot (ends : EndsGroups rest) : rest.head? ≠ some '.' := by
  cases ends <;> simp

/-- No group stands there, with a colon before it or without. -/
theorem stopsDigits_behind {behind : List Char} (ends : EndsGroups rest)
    (same : rest = lead ':' isFirst ++ behind) (base : Nat) : StopsDigits base behind := by
  cases isFirst with
  | true =>
      subst same
      exact ends.stopsDigits base
  | false =>
      cases ends with
      | zeros rest =>
          cases same
          exact stopsDigits_cons (by decide)
      | scope rest | close rest => cases same

end EndsGroups

theorem takeFour_of_stopsDigits (stops : StopsDigits 10 input) : takeFour input = none := by
  rw [takeFour, takeNumber_of_stopsDigits stops]
  rfl

theorem takeGroups_of_ends (ends : EndsGroups rest) :
    takeGroups room isFirst rest = ⟨[], false, rest⟩ := by
  cases room with
  | zero => rfl
  | succ room =>
      have noFour : takeNext ':' isFirst takeFour rest = none :=
        takeNext_eq_none fun behind same =>
          takeFour_of_stopsDigits (ends.stopsDigits_behind same 10)
      have noGroup : takeNext ':' isFirst (takeNumber .group) rest = none :=
        takeNext_eq_none fun behind same =>
          takeNumber_of_stopsDigits (ends.stopsDigits_behind same 16)
      simp [takeGroups, noFour, noGroup]

/-- A group is taken if it is no octet. -/
theorem takeGroups_group {group : UInt16}
    (number : NumberForm.group.IsWritten characters group.toNat) (stops : StopsDigits 16 rest)
    (noDot : rest.head? ≠ some '.') :
    takeGroups (room + 1) isFirst (lead ':' isFirst ++ (characters ++ rest)) =
      { takeGroups room false rest with
        groups := group :: (takeGroups room false rest).groups } := by
  simp only [takeGroups, takeNext_lead, takeFour_group number stops noDot, ite_self,
    takeNumber_append number stops]
  rw [show group.toNat.toUInt16 = group from UInt16.ofNat_toNat]

/-- Groups are taken whole: nothing of them is taken as an address of version four before its
time. -/
theorem takeGroups_append (written : AreGroups endsInFour characters groups)
    (small : groups.length ≤ room) (ends : EndsGroups rest) :
    takeGroups room isFirst (lead ':' isFirst ++ (characters ++ rest)) =
      ⟨groups, endsInFour, rest⟩ := by
  induction written generalizing room isFirst with
  | last number =>
      obtain ⟨room, rfl⟩ := Nat.exists_eq_add_of_le' small
      rw [List.length_singleton, takeGroups_group number (ends.stopsDigits 16) ends.head?_ne_dot,
        takeGroups_of_ends ends]
  | four address =>
      obtain ⟨room, rfl⟩ := Nat.exists_eq_add_of_le' small
      have taken := takeFour_eq_some_iff.mpr ⟨_, address, rfl, ends.stopsDigits 10⟩
      simp [takeGroups, groupsOf, taken]
  | @more _ characters behind group groups number others ih =>
      obtain ⟨room, rfl⟩ := Nat.exists_eq_add_of_le' small
      have colon : StopsDigits 16 (':' :: (behind ++ rest)) := stopsDigits_cons (by decide)
      have taken : takeGroups (room + groups.length) false (':' :: (behind ++ rest)) = _ :=
        ih (Nat.le_add_left ..)
      rw [List.append_assoc, List.cons_append, List.length_cons, ← Nat.add_assoc,
        takeGroups_group number colon (by simp), taken]

theorem takeGroups_side (side : IsSide endsInFour characters groups)
    (small : groups.length ≤ room) (ends : EndsGroups rest) :
    takeGroups room true (characters ++ rest) = ⟨groups, endsInFour, rest⟩ := by
  cases side with
  | empty => exact takeGroups_of_ends ends
  | groups written =>
      have taken : takeGroups room true (lead ':' true ++ (characters ++ rest)) = _ :=
        takeGroups_append written small ends
      exact taken

/-- Groups have been taken, or nothing has been. -/
theorem takeGroups_spec (room : Nat) (isFirst : Bool) (input : List Char) :
    (takeGroups room isFirst input).groups.length ≤ room ∧
      (takeGroups room isFirst input = ⟨[], false, input⟩ ∨
        ∃ characters,
          AreGroups (takeGroups room isFirst input).endsInFour characters
            (takeGroups room isFirst input).groups ∧
          input = lead ':' isFirst ++ (characters ++ (takeGroups room isFirst input).rest)) := by
  induction room generalizing isFirst input with
  | zero => exact ⟨Nat.le_refl 0, .inl rfl⟩
  | succ room ih =>
      simp only [takeGroups]
      split
      case h_1 octets rest found =>
        split_ifs at found with noRoom
        obtain ⟨_, rfl, taken⟩ := takeNext_eq_some_iff.mp found
        obtain ⟨characters, address, rfl, -⟩ := takeFour_eq_some_iff.mp taken
        have small : 2 ≤ room + 1 := by omega
        exact ⟨small, .inr ⟨characters, .four address, rfl⟩⟩
      case h_2 =>
        split
        case h_1 => exact ⟨Nat.zero_le _, .inl rfl⟩
        case h_2 group rest found =>
          obtain ⟨_, rfl, taken⟩ := takeNext_eq_some_iff.mp found
          obtain ⟨characters, number, rfl, -⟩ := takeNumber_eq_some_iff.mp taken
          have same := number.toNat_toUInt16 (by decide)
          rw [← same] at number
          obtain ⟨small, others⟩ := ih false rest
          refine ⟨Nat.succ_le_succ small, .inr ?_⟩
          obtain nothing | ⟨otherCharacters, written, behind⟩ := others
          · rw [nothing]
            exact ⟨characters, .last number, rfl⟩
          · refine ⟨_, .more number written, ?_⟩
            conv_lhs => rw [behind]
            simp [lead]

theorem exists_isSide_takeGroups (room : Nat) (input : List Char) :
    ∃ characters,
      IsSide (takeGroups room true input).endsInFour characters
        (takeGroups room true input).groups ∧
      input = characters ++ (takeGroups room true input).rest := by
  obtain ⟨-, nothing | ⟨characters, written, same⟩⟩ := takeGroups_spec room true input
  · rw [nothing]
    exact ⟨[], .empty, rfl⟩
  · exact ⟨characters, .groups written, same⟩

/-- The characters are eight groups, or fewer with two colons that stand for the others, of which
there is at least one, and all are zero. -/
inductive IsSix : List Char → Vector UInt16 8 → Prop
  | full {endsInFour : Bool} {characters : List Char} {groups : Vector UInt16 8}
      (written : AreGroups endsInFour characters groups.toList) : IsSix characters groups
  | shortened {endsInFour : Bool} {frontCharacters backCharacters : List Char}
      {front back : List UInt16} {groups : Vector UInt16 8} (zeros : Nat)
      (frontWritten : IsSide false frontCharacters front)
      (backWritten : IsSide endsInFour backCharacters back)
      (filled : groups.toList = front ++ List.replicate (zeros + 1) 0 ++ back) :
      IsSix (frontCharacters ++ ':' :: ':' :: backCharacters) groups

theorem toList_fillGroups {front back : List UInt16} (small : front.length + back.length ≤ 8) :
    (fillGroups front back).toList =
      front ++ List.replicate (8 - front.length - back.length) 0 ++ back := by
  have size : (front ++ List.replicate (8 - front.length - back.length) 0 ++ back).length = 8 := by
    simp only [List.length_append, List.length_replicate]
    omega
  simp only [fillGroups]
  generalize front ++ List.replicate (8 - front.length - back.length) 0 ++ back = groups at size
  refine List.ext_getElem (by simp [size]) fun position _ within => ?_
  simp [List.getElem?_eq_getElem within]

theorem fillGroups_eq {front back : List UInt16} {groups : Vector UInt16 8} {zeros : Nat}
    (filled : groups.toList = front ++ List.replicate zeros 0 ++ back) :
    fillGroups front back = groups := by
  have size := congrArg List.length filled
  simp only [Vector.length_toList, List.length_append, List.length_replicate] at size
  rw [← Vector.toList_inj, toList_fillGroups (by omega), filled]
  congr 3
  omega

theorem takeSix_sound {six : Vector UInt16 8} (taken : takeSix input = some (six, rest)) :
    ∃ characters, IsSix characters six ∧ input = characters ++ rest := by
  obtain ⟨frontCharacters, frontWritten, frontSame⟩ := exists_isSide_takeGroups 8 input
  have small := (takeGroups_spec 8 true input).1
  simp only [takeSix] at taken
  generalize takeGroups 8 true input = taking at *
  obtain ⟨front, endsInFour, behind⟩ := taking
  dsimp only at *
  subst frontSame
  split at taken
  case isTrue full =>
    cases taken
    cases frontWritten with
    | empty => cases full
    | groups written =>
        have filled : (fillGroups front []).toList = front := by
          simp [toList_fillGroups, full]
        rw [← filled] at written
        exact ⟨_, .full written, rfl⟩
  case isFalse notFull =>
    split at taken
    case isTrue => cases taken
    case isFalse notInFour =>
      obtain rfl := Bool.eq_false_of_not_eq_true notInFour
      simp only [Option.bind_eq_bind, Option.bind_eq_some_iff, Prod.exists,
        takeCharacter_eq_some_iff, Option.pure_def, Option.some.injEq, Prod.mk.injEq] at taken
      obtain ⟨_, _, rfl, _, behind, rfl, rfl, rfl⟩ := taken
      obtain ⟨backCharacters, backWritten, backSame⟩ :=
        exists_isSide_takeGroups (7 - front.length) behind
      have backSmall := (takeGroups_spec (7 - front.length) true behind).1
      have zeros : 8 - front.length -
          (takeGroups (7 - front.length) true behind).groups.length =
          7 - front.length - (takeGroups (7 - front.length) true behind).groups.length + 1 := by
        omega
      refine ⟨_, .shortened _ frontWritten backWritten
        ((toList_fillGroups (by omega)).trans (by rw [zeros])), ?_⟩
      conv_lhs => rw [backSame]
      simp

theorem takeSix_append {six : Vector UInt16 8} (written : IsSix characters six)
    (ends : EndsGroups rest) : takeSix (characters ++ rest) = some (six, rest) := by
  cases written with
  | full written =>
      have taken := takeGroups_side (.groups written) (Nat.le_of_eq six.length_toList) ends
      have filled : fillGroups six.toList [] = six :=
        fillGroups_eq (show six.toList = six.toList ++ List.replicate 0 0 ++ [] by simp)
      simp [takeSix, taken, filled]
  | @shortened _ frontText backText front back _ zeros frontWritten backWritten filled =>
      have size := congrArg List.length filled
      simp only [Vector.length_toList, List.length_append, List.length_replicate] at size
      have frontTaken := takeGroups_side frontWritten (show front.length ≤ 8 by omega)
        (.zeros (backText ++ rest))
      have backTaken := takeGroups_side backWritten
        (show back.length ≤ 7 - front.length by omega) ends
      have notFull : front.length ≠ 8 := by omega
      simp [takeSix, frontTaken, notFull, backTaken, fillGroups_eq filled]

/-! ## Scopes, numbers of services and the whole -/

/-- The characters tell the scope, or none of them do and it is zero. -/
inductive IsScope : List Char → UInt32 → Prop
  | none : IsScope [] 0
  | some {characters : List Char} {scope : UInt32}
      (number : NumberForm.scope.IsWritten characters scope.toNat) :
      IsScope ('%' :: characters) scope

/-- The characters are a socket address. -/
inductive IsWritten : SocketAddress → List Char → Prop
  | four {octets : Vector UInt8 4} {portNumber : UInt16} {address service : List Char}
      (isFour : IsFour address octets)
      (number : NumberForm.portNumber.IsWritten service portNumber.toNat) :
      IsWritten ⟨.four octets, portNumber⟩ (address ++ ':' :: service)
  | six {groups : Vector UInt16 8} {scope : UInt32} {portNumber : UInt16}
      {address zone service : List Char} (isSix : IsSix address groups)
      (isScope : IsScope zone scope)
      (number : NumberForm.portNumber.IsWritten service portNumber.toNat) :
      IsWritten ⟨.six groups scope, portNumber⟩
        ('[' :: (address ++ (zone ++ ']' :: ':' :: service)))

/-- The number of a service stands at the end. -/
theorem takePortNumber_eq_some_iff {portNumber : UInt16} :
    takePortNumber input = some (portNumber, []) ↔
      ∃ service, NumberForm.portNumber.IsWritten service portNumber.toNat ∧
        input = ':' :: service := by
  simp only [takePortNumber, Option.bind_eq_bind, Option.bind_eq_some_iff, Prod.exists,
    takeCharacter_eq_some_iff, takeNumber_eq_some_iff, Option.pure_def, Option.some.injEq,
    Prod.mk.injEq]
  constructor
  · rintro ⟨_, _, rfl, value, _, ⟨service, number, rfl, -⟩, rfl, rfl⟩
    have same := number.toNat_toUInt16 (by decide)
    rw [← same] at number
    exact ⟨service, number, by rw [List.append_nil]⟩
  · rintro ⟨service, number, rfl⟩
    have nothing : StopsDigits 10 [] := fun character member => by cases member
    exact ⟨(), _, rfl, _, _, ⟨service, number, (List.append_nil service).symm, nothing⟩,
      UInt16.ofNat_toNat, rfl⟩

theorem takeScope_sound (input : List Char) :
    ∃ zone, IsScope zone (takeScope input).1.toUInt32 ∧ input = zone ++ (takeScope input).2 := by
  simp only [takeScope]
  split
  case h_1 result found =>
    obtain ⟨scope, rest⟩ := result
    simp only [Option.bind_eq_some_iff, Prod.exists, takeCharacter_eq_some_iff,
      takeNumber_eq_some_iff] at found
    obtain ⟨_, _, rfl, characters, number, rfl, -⟩ := found
    have same := number.toNat_toUInt32
    rw [← same] at number
    exact ⟨_, .some number, rfl⟩
  case h_2 => exact ⟨[], .none, rfl⟩

theorem takeScope_append {zone : List Char} {scope : UInt32} (isScope : IsScope zone scope) :
    takeScope (zone ++ ']' :: rest) = (scope.toNat, ']' :: rest) := by
  cases isScope with
  | none => rfl
  | some number =>
      have stops : StopsDigits 10 (']' :: rest) := stopsDigits_cons (by decide)
      simp [takeScope, takeNumber_append number stops]

theorem isWritten_of_takeSocketFour {socket : SocketAddress}
    (taken : takeSocketFour input = some (socket, [])) : IsWritten socket input := by
  simp only [takeSocketFour, Option.bind_eq_bind, Option.bind_eq_some_iff, Prod.exists,
    takeFour_eq_some_iff, Option.pure_def, Option.some.injEq, Prod.mk.injEq] at taken
  obtain ⟨octets, _, ⟨address, isFour, rfl, -⟩, portNumber, _, served, rfl, rfl⟩ := taken
  obtain ⟨service, number, rfl⟩ := takePortNumber_eq_some_iff.mp served
  exact .four isFour number

theorem isWritten_of_takeSocketSix {socket : SocketAddress}
    (taken : takeSocketSix input = some (socket, [])) : IsWritten socket input := by
  simp only [takeSocketSix, Option.bind_eq_bind, Option.bind_eq_some_iff, Prod.exists,
    takeCharacter_eq_some_iff, Option.pure_def, Option.some.injEq, Prod.mk.injEq] at taken
  obtain ⟨_, _, rfl, groups, behind, six, _, _, closed, portNumber, _, served, rfl, rfl⟩ := taken
  obtain ⟨service, number, rfl⟩ := takePortNumber_eq_some_iff.mp served
  obtain ⟨address, isSix, rfl⟩ := takeSix_sound six
  obtain ⟨zone, isScope, same⟩ := takeScope_sound behind
  have whole : address ++ behind = address ++ (zone ++ ']' :: ':' :: service) := by
    rw [← closed, ← same]
  rw [whole]
  exact .six isSix isScope number

theorem IsScope.endsGroups {zone : List Char} {scope : UInt32} (isScope : IsScope zone scope) :
    EndsGroups (zone ++ ']' :: rest) := by
  cases isScope with
  | none => exact .close rest
  | some => exact .scope _

theorem takeSocket_of_isWritten {socket : SocketAddress} (written : IsWritten socket input) :
    (takeSocketFour input <|> takeSocketSix input) = some (socket, []) := by
  -- No address of version four begins with a bracket, so the order of the attempts is no matter.
  cases written with
  | @four octets portNumber address service isFour number =>
      have colon : StopsDigits 10 (':' :: service) := stopsDigits_cons (by decide)
      have taken := takeFour_eq_some_iff.mpr ⟨address, isFour, rfl, colon⟩
      have served := takePortNumber_eq_some_iff.mpr ⟨service, number, rfl⟩
      simp [takeSocketFour, taken, served]
  | @six groups scope portNumber address zone service isSix isScope number =>
      have noFour (behind : List Char) : takeFour ('[' :: behind) = none :=
        takeFour_of_stopsDigits (stopsDigits_cons (by decide))
      have ends : EndsGroups (zone ++ ']' :: ':' :: service) := isScope.endsGroups
      have served := takePortNumber_eq_some_iff.mpr ⟨service, number, rfl⟩
      simp [takeSocketFour, noFour, takeSocketSix, takeSix_append isSix ends,
        takeScope_append isScope, served]

/-- Exactly the texts of the grammar are read. -/
theorem read?_eq_some_iff {text : String} {socket : SocketAddress} :
    read? text = some socket ↔ IsWritten socket text.toList := by
  have whole : read? text = some socket ↔
      (takeSocketFour text.toList <|> takeSocketSix text.toList) = some (socket, []) := by
    simp only [read?]
    split
    case h_1 found =>
      rw [found]
      simp
    case h_2 others =>
      exact ⟨fun read => (by cases read), fun taken => absurd taken (others socket)⟩
  rw [whole]
  refine ⟨fun taken => ?_, takeSocket_of_isWritten⟩
  cases four : takeSocketFour text.toList with
  | some result =>
      rw [four] at taken
      exact isWritten_of_takeSocketFour (four.trans taken)
  | none =>
      rw [four] at taken
      exact isWritten_of_takeSocketSix taken

end SessionGate.Network.SocketAddress
