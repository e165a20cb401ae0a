import SessionGate.Proofs.Json.Members
import SessionGate.Proofs.Json.Values

/-!
# Objects as they are written

An object is written member by member, and further members may be put in anywhere. Looking for the
next key finds the name of the next member, and a faithful reader takes the value of a member and
nothing else.
-/

namespace SessionGate.Json

/-! ## Readers that end where their value does -/

/-- The reader takes exactly what could be passed over as a value, and does not look at what
follows. -/
structure IsFaithful {α : Type} (reader : Reader α) : Prop where
  skips : ∀ {input value rest}, reader input = .ok (value, rest) → skipValue input = .ok rest
  anywhere : ∀ {input value rest}, reader input = .ok (value, rest) →
    ∃ written, input = written ++ rest ∧ ∀ more, reader (written ++ more) = .ok (value, more)

/-- A value that is read from a text is read from it whatever follows. -/
theorem IsFaithful.read_append {α : Type} {reader : Reader α} (faithful : IsFaithful reader)
    {blanks value tail rest : Octets} {result : α} (blank : AreBlanks blanks)
    (isValue : IsValue value) (ends : EndsNumber tail)
    (read : reader (blanks ++ (value ++ tail)) = .ok (result, rest)) :
    rest = tail ∧ ∀ more, reader (blanks ++ (value ++ more)) = .ok (result, more) := by
  have same : rest = tail :=
    Except.ok.inj ((faithful.skips read).symm.trans (skipValue_eq blank isValue ends))
  subst same
  obtain ⟨written, joined, anywhere⟩ := faithful.anywhere read
  rw [← List.append_assoc] at joined
  obtain rfl := List.append_cancel_right joined
  refine ⟨rfl, fun more => ?_⟩
  rw [← List.append_assoc]
  exact anywhere more

theorem refuseKind_ne_ok {α : Type} {wanted : String} {input : Octets} (result : α × Octets) :
    refuseKind wanted input ≠ .ok result := by
  rw [refuseKind]
  cases readFound input with
  | error failure => exact nofun
  | ok found => exact nofun

theorem skipValue_of_skipScalar {input tail rest : Octets} {byte : UInt8}
    (found : skipBlanks input = byte :: tail) (noFrame : Frame.opening? byte = none)
    (skipped : skipScalar byte tail = .ok rest) : skipValue input = .ok rest := by
  rw [skipValue, skipOpen_value, found]
  dsimp only
  rw [noFrame, skipped]
  exact skipOpen_delimiter_nil

theorem isFaithful_text : IsFaithful text := by
  have inverted {input rest : Octets} {value : String} (read : text input = .ok (value, rest)) :
      ∃ tail, skipBlanks input = 0x22 :: tail ∧ readText tail = .ok (value, rest) := by
    rw [text, textWanted] at read
    split at read
    · cases read
    · rename_i byte tail found
      split at read
      · rename_i quote
        exact ⟨tail, quote ▸ found, read⟩
      · exact absurd read (refuseKind_ne_ok _)
  constructor
  · intro input value rest read
    obtain ⟨tail, found, taken⟩ := inverted read
    exact skipValue_of_skipScalar found rfl (skipText_of_readText taken)
  · intro input value rest read
    obtain ⟨tail, found, taken⟩ := inverted read
    obtain ⟨blanks, blank, same⟩ := exists_areBlanks input
    obtain ⟨written, rfl, spells⟩ := readText_eq_ok_iff.mp taken
    refine ⟨blanks ++ 0x22 :: (written ++ [0x22]), ?_, fun more => ?_⟩
    · rw [same, found]
      simp
    · rw [text, textWanted, List.append_assoc, List.cons_append, skipBlanks_append_cons blank rfl]
      dsimp only
      rw [if_pos rfl]
      exact readText_eq_ok_iff.mpr ⟨written, by simp, spells⟩

/-- What a faithful reader takes is not empty. -/
theorem IsFaithful.ne_nil {α : Type} {reader : Reader α} (faithful : IsFaithful reader)
    {written rest : Octets} {value : α} (read : reader (written ++ rest) = .ok (value, rest)) :
    written ≠ [] := by
  rintro rfl
  obtain ⟨blanks, value, -, isValue, same⟩ := exists_isValue (faithful.skips read)
  obtain ⟨first, more, rfl, -⟩ := isValue.exists_eq_cons
  have lengths := congrArg List.length same
  simp at lengths
  omega

theorem skipValue_nil_ne_ok (rest : Octets) : skipValue [] ≠ .ok rest := by
  intro skipped
  obtain ⟨blanks, value, -, isValue, same⟩ := exists_isValue skipped
  obtain ⟨first, more, rfl, -⟩ := isValue.exists_eq_cons
  simp at same

/-- How an optional value is read: it is the word for no value, or begins with another byte. -/
theorem optional_eq_ok {α : Type} {reader : Reader α} (faithful : IsFaithful reader)
    {input rest : Octets} {value : Option α} (read : optional reader input = .ok (value, rest)) :
    (∃ word, skipBlanks input = 0x6e :: (word ++ rest) ∧ value = none ∧
        ∀ more, takeWord ['u', 'l', 'l'] (word ++ more) = .ok more) ∨
      ∃ byte tail found, skipBlanks input = byte :: tail ∧ byte ≠ 0x6e ∧ value = some found ∧
        reader (byte :: tail) = .ok (found, rest) := by
  rw [optional] at read
  split at read
  · obtain ⟨⟨found, after⟩, taken, -⟩ := exists_ok_of_map read
    exact absurd (faithful.skips taken) (skipValue_nil_ne_ok after)
  · rename_i byte tail found
    split at read
    · rename_i isNull
      obtain ⟨after, taken, same⟩ := exists_ok_of_map read
      cases same
      obtain ⟨word, spelled, rfl⟩ := exists_of_takeWord taken
      exact .inl ⟨word, isNull ▸ found, rfl, takeWord_append spelled⟩
    · rename_i notNull
      obtain ⟨⟨value, after⟩, taken, same⟩ := exists_ok_of_map read
      cases same
      exact .inr ⟨byte, tail, value, found, notNull, rfl, taken⟩

theorem isFaithful_optional {α : Type} {reader : Reader α} (faithful : IsFaithful reader) :
    IsFaithful (optional reader) := by
  constructor
  · intro input value rest read
    rcases optional_eq_ok faithful read with ⟨word, front, -, taken⟩ |
      ⟨byte, tail, found, front, notNull, -, taken⟩
    · exact skipValue_of_skipScalar front rfl (taken rest)
    · have same : skipBlanks input = skipBlanks (byte :: tail) := by
        rw [← front, skipBlanks_skipBlanks]
      rw [skipValue, skipOpen_value_congr same]
      exact faithful.skips taken
  · intro input value rest read
    obtain ⟨blanks, blank, same⟩ := exists_areBlanks input
    rcases optional_eq_ok faithful read with ⟨word, front, rfl, taken⟩ |
      ⟨byte, tail, found, front, notNull, rfl, taken⟩
    · refine ⟨blanks ++ 0x6e :: word, ?_, fun more => ?_⟩
      · rw [same, front]
        simp
      · rw [optional, List.append_assoc, List.cons_append, skipBlanks_append_cons blank rfl]
        dsimp only
        rw [if_pos rfl, taken]
        rfl
    · obtain ⟨written, joined, anywhere⟩ := faithful.anywhere taken
      have some := faithful.ne_nil (anywhere rest)
      obtain ⟨first, written, rfl⟩ := List.exists_cons_of_ne_nil some
      obtain ⟨rfl, rfl⟩ := List.cons.inj joined
      refine ⟨blanks ++ byte :: written, ?_, fun more => ?_⟩
      · rw [same, front]
        simp
      · rw [optional, List.append_assoc, List.cons_append,
          skipBlanks_append_cons blank (isBlank_of_skipBlanks front)]
        dsimp only
        rw [if_neg notNull, ← List.cons_append, anywhere]
        rfl

/-- A whole text is read if nothing but blanks follows what is read. -/
theorem readWhole_eq_ok_iff {α : Type} {reader : Reader α} {input : Octets} {value : α} :
    readWhole reader input = .ok value ↔
      ∃ rest, reader input = .ok (value, rest) ∧ skipBlanks rest = [] := by
  rw [readWhole]
  cases taken : reader input with
  | error failure => simp [bind, Except.bind, Except.mapError]
  | ok pair =>
      obtain ⟨found, rest⟩ := pair
      cases unread : skipBlanks rest with
      | nil =>
          simp only [bind, Except.bind, Except.mapError, unread, Except.ok.injEq, Prod.mk.injEq]
          constructor
          · intro same
            exact ⟨rest, ⟨same, rfl⟩, unread⟩
          · rintro ⟨_, ⟨same, -⟩, -⟩
            exact same
      | cons byte after =>
          simp [bind, Except.bind, Except.mapError, unread, mistakeOn, mistakeAt]

/-! ## Members -/

/-- A member of an object as it is written: its name without the quotes, its value, and the blanks
around them. -/
structure Member where
  front : Octets
  name : Octets
  beforeColon : Octets
  beforeValue : Octets
  value : Octets
  back : Octets

namespace Member

/-- What follows the name of a member. -/
def afterName (member : Member) : Octets :=
  member.beforeColon ++ 0x3a :: (member.beforeValue ++ (member.value ++ member.back))

/-- The bytes of a member. -/
def bytes (member : Member) : Octets :=
  member.front ++ 0x22 :: (member.name ++ 0x22 :: member.afterName)

/-- The name of the member, once its escapes have been read. -/
def IsNamed (member : Member) (name : String) : Prop :=
  Spells member.name (Octets.ofText name)

/-- The member keeps to the grammar, and its name can be read. -/
structure IsWritten (member : Member) : Prop where
  front : AreBlanks member.front
  named : ∃ name, member.IsNamed name
  beforeColon : AreBlanks member.beforeColon
  beforeValue : AreBlanks member.beforeValue
  value : IsValue member.value
  back : AreBlanks member.back

/-- Members behind others, each after a comma. -/
def followers (members : List Member) : Octets :=
  members.flatMap fun member => 0x2c :: member.bytes

end Member

/-- The text of an object, with the blanks around it and after its opening bracket. -/
structure ObjectText where
  front : Octets
  inner : Octets
  members : List Member
  back : Octets

namespace ObjectText

/-- The bytes of an object: its members are divided by commas. -/
def bytes (object : ObjectText) : Octets :=
  object.front ++ 0x7b ::
    (object.inner ++ ([0x2c].intercalate (object.members.map Member.bytes) ++
      0x7d :: object.back))

/-- The object keeps to the grammar. -/
structure IsWritten (object : ObjectText) : Prop where
  front : AreBlanks object.front
  inner : AreBlanks object.inner
  members : ∀ member ∈ object.members, member.IsWritten
  back : AreBlanks object.back

end ObjectText

section

variable {member : Member} {name : String} {isFirst : Bool} {blanks input rest : Octets}

theorem Member.followers_cons (member : Member) (members : List Member) :
    followers (member :: members) = 0x2c :: (member.bytes ++ followers members) :=
  rfl

theorem Member.intercalate_cons (member : Member) (members : List Member) :
    [0x2c].intercalate ((member :: members).map Member.bytes) =
      member.bytes ++ followers members := by
  induction members generalizing member with
  | nil => simp [List.intercalate, followers]
  | cons next members ih =>
      rw [List.map_cons, List.map_cons, List.intercalate_cons_cons, ← List.map_cons, ih,
        followers_cons, List.append_assoc]
      rfl

theorem Member.bytes_append (member : Member) (rest : Octets) :
    member.bytes ++ rest =
      member.front ++ 0x22 :: (member.name ++ 0x22 :: (member.afterName ++ rest)) := by
  simp [bytes]

theorem Member.IsNamed.readText_eq (named : member.IsNamed name) (rest : Octets) :
    readText (member.name ++ 0x22 :: rest) = .ok (name, rest) :=
  readText_eq_ok_iff.mpr ⟨member.name, rfl, named⟩

theorem nextKey_of_end (blank : AreBlanks blanks) (rest : Octets) :
    nextKey isFirst (blanks ++ 0x7d :: rest) = .ok (none, 0x7d :: rest) := by
  rw [nextKey, skipBlanks_append_cons blank rfl]
  rfl

namespace Member.IsWritten

theorem nextKey_first (isWritten : member.IsWritten) (named : member.IsNamed name)
    (blank : AreBlanks blanks) (rest : Octets) :
    nextKey true (blanks ++ (member.bytes ++ rest)) =
      .ok (some name, member.afterName ++ rest) := by
  rw [bytes_append, ← List.append_assoc, nextKey,
    skipBlanks_append_cons (blank.append isWritten.front) rfl]
  simp [named.readText_eq, Except.map]

theorem nextKey_later (isWritten : member.IsWritten) (named : member.IsNamed name)
    (blank : AreBlanks blanks) (rest : Octets) :
    nextKey false (blanks ++ 0x2c :: (member.bytes ++ rest)) =
      .ok (some name, member.afterName ++ rest) := by
  have visible : isBlank 0x22 = false := rfl
  rw [bytes_append, nextKey, skipBlanks_append_cons blank rfl]
  simp [skipBlanks_append_cons isWritten.front visible, named.readText_eq, Except.map]

theorem takeColon_afterName (isWritten : member.IsWritten) (rest : Octets) :
    takeColon (member.afterName ++ rest) =
      .ok (member.beforeValue ++ (member.value ++ (member.back ++ rest))) := by
  rw [afterName, List.append_assoc, List.cons_append, takeColon,
    skipBlanks_append_cons isWritten.beforeColon rfl]
  simp

end Member.IsWritten

theorem endsNumber_followers (members : List Member) (rest : Octets) :
    EndsNumber (Member.followers members ++ 0x7d :: rest) := by
  cases members with
  | nil => exact ⟨rfl, by decide⟩
  | cons member members => exact ⟨rfl, by decide⟩

/-- The members of an object are looked for alike at its beginning and behind a comma. -/
theorem nextKey_members {members : List Member} (areWritten : ∀ member ∈ members, member.IsWritten)
    (blank : AreBlanks blanks) (rest : Octets) :
    nextKey true (blanks ++ ([0x2c].intercalate (members.map Member.bytes) ++ 0x7d :: rest)) =
      nextKey false (Member.followers members ++ 0x7d :: rest) := by
  cases members with
  | nil =>
      rw [List.map_nil, show [0x2c].intercalate [] = ([] : Octets) from rfl, List.nil_append,
        nextKey_of_end blank]
      exact (nextKey_of_end areBlanks_nil rest).symm
  | cons member members =>
      have isWritten := areWritten member List.mem_cons_self
      obtain ⟨name, named⟩ := isWritten.named
      rw [Member.intercalate_cons, List.append_assoc, isWritten.nextKey_first named blank,
        Member.followers_cons, List.cons_append, List.append_assoc]
      exact (isWritten.nextKey_later named areBlanks_nil _).symm

end

/-! ## Members that are put in -/

namespace Member

/-- The member keeps to the grammar, and its name is none of those that are known. -/
structure IsForeign (known : List String) (member : Member) : Prop where
  isWritten : member.IsWritten
  unknown : ∀ name, member.IsNamed name → name ∉ known

/-- The second members are the first ones with others put in, anywhere, that are not known. -/
inductive Inserts (known : List String) : List Member → List Member → Prop
  | nil : Inserts known [] []
  | keep {members members' : List Member} (member : Member)
      (inserts : Inserts known members members') :
      Inserts known (member :: members) (member :: members')
  | insert {members members' : List Member} {member : Member} (foreign : member.IsForeign known)
      (inserts : Inserts known members members') : Inserts known members (member :: members')

theorem Inserts.areWritten {known : List String} {members members' : List Member}
    (inserts : Inserts known members members')
    (areWritten : ∀ member ∈ members, member.IsWritten) :
    ∀ member ∈ members', member.IsWritten := by
  induction inserts with
  | nil => exact areWritten
  | keep member _ ih =>
      obtain ⟨isWritten, others⟩ := List.forall_mem_cons.mp areWritten
      exact List.forall_mem_cons.mpr ⟨isWritten, ih others⟩
  | insert foreign _ ih => exact List.forall_mem_cons.mpr ⟨foreign.isWritten, ih areWritten⟩

end Member

/-! ## Keys that are found are written -/

section

variable {isFirst : Bool} {input rest : Octets}

theorem exists_of_nextKey_none (next : nextKey isFirst input = .ok (none, rest)) :
    ∃ blanks after, AreBlanks blanks ∧ rest = 0x7d :: after ∧ input = blanks ++ rest := by
  obtain ⟨blanks, blank, same⟩ := exists_areBlanks input
  rw [nextKey] at next
  dsimp only at next
  split at next
  · cases next
  · rename_i byte tail found
    split at next
    · rename_i closing
      cases next
      exact ⟨blanks, tail, blank, by rw [closing], by rw [same, found]⟩
    -- A key that has been read is a key.
    · split at next
      · split at next
        · obtain ⟨_, -, other⟩ := exists_ok_of_map next
          cases other
        · cases next
      · split at next
        · split at next
          · cases next
          · split at next
            · obtain ⟨_, -, other⟩ := exists_ok_of_map next
              cases other
            · split at next <;> cases next
        · cases next

/-- What stands before the name of a member: nothing before the first one, else a comma. -/
def divider (isFirst : Bool) : Octets :=
  if isFirst then [] else [0x2c]

theorem exists_of_nextKey_some {name : String}
    (next : nextKey isFirst input = .ok (some name, rest)) :
    ∃ blanks front written, AreBlanks blanks ∧ AreBlanks front ∧
      Spells written (Octets.ofText name) ∧
      input = blanks ++ (divider isFirst ++ (front ++ 0x22 :: (written ++ 0x22 :: rest))) := by
  obtain ⟨blanks, blank, same⟩ := exists_areBlanks input
  rw [nextKey] at next
  dsimp only at next
  split at next
  · cases next
  · rename_i byte tail found
    split at next
    · cases next
    · split at next
      · rename_i first
        split at next
        · rename_i quote
          obtain ⟨_, taken, key⟩ := exists_ok_of_map next
          cases key
          obtain ⟨written, rfl, spells⟩ := readText_eq_ok_iff.mp taken
          refine ⟨[], blanks, written, areBlanks_nil, blank, spells, ?_⟩
          rw [same, found, quote, divider, if_pos first]
          rfl
        · cases next
      · rename_i later
        split at next
        · rename_i comma
          split at next
          · cases next
          · rename_i byte' after found'
            obtain ⟨front, blank', same'⟩ := exists_areBlanks tail
            split at next
            · rename_i quote
              obtain ⟨_, taken, key⟩ := exists_ok_of_map next
              cases key
              obtain ⟨written, rfl, spells⟩ := readText_eq_ok_iff.mp taken
              refine ⟨blanks, front, written, blank, blank', spells, ?_⟩
              rw [same, found, comma, same', found', quote, divider, if_neg later]
              rfl
            · split at next <;> cases next
        · cases next

end

end SessionGate.Json
