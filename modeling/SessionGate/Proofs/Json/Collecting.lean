import SessionGate.Proofs.Json.Objects

/-!
# Members that nobody asked for

Reading a record from an object takes the members of the record's fields and passes over all
others. So others may be put in anywhere, and taken out again: the same is read. Every object that
a record is read from is written member by member.
-/

namespace SessionGate.Json

namespace Record

variable {Draft Value : Type} {record : Record Draft Value} {pending : List (RecordField Draft)}
  {draft final : Draft} {member : Member} {members : List Member} {isFirst : Bool}
  {input rest blanks : Octets} {name : String}

/-- The record is read by faithful readers. -/
def IsFaithful (record : Record Draft Value) : Prop :=
  ∀ field ∈ record.fields, ∀ draft, Json.IsFaithful (field.read draft)

/-- How members fill a draft: a member of a pending field changes it by its value, whatever
follows, and a member of no field leaves it. -/
inductive Collects (record : Record Draft Value) :
    List (RecordField Draft) → Draft → List Member → Draft → Prop
  | nil {pending : List (RecordField Draft)} {draft : Draft} :
      Collects record pending draft [] draft
  | field {pending : List (RecordField Draft)} {draft changed final : Draft} {member : Member}
      {members : List Member} {name : String} {field : RecordField Draft}
      (named : member.IsNamed name) (wanted : pending.find? (·.name == name) = some field)
      (holds : ∀ more,
        field.read draft (member.beforeValue ++ (member.value ++ more)) = .ok (changed, more))
      (later : Collects record (pending.eraseP (·.name == name)) changed members final) :
      Collects record pending draft (member :: members) final
  | other {pending : List (RecordField Draft)} {draft final : Draft} {member : Member}
      {members : List Member} {name : String} (named : member.IsNamed name)
      (unknown : name ∉ record.names) (later : Collects record pending draft members final) :
      Collects record pending draft (member :: members) final

theorem find?_eq_none (sub : pending.Sublist record.fields) (unknown : name ∉ record.names) :
    pending.find? (·.name == name) = none := by
  rw [List.find?_eq_none]
  intro field member same
  exact unknown (List.mem_map.mpr ⟨field, sub.subset member, eq_of_beq same⟩)

/-! ## Reading the members of an object -/

/-- Members that fill a draft are read as that. -/
theorem Collects.readMembers_eq (collects : record.Collects pending draft members final)
    (sub : pending.Sublist record.fields) (areWritten : ∀ member ∈ members, member.IsWritten)
    (blank : AreBlanks blanks) (rest : Octets) :
    record.readMembers pending draft false
        (blanks ++ (Member.followers members ++ 0x7d :: rest)) =
      .ok (final, 0x7d :: rest) := by
  induction collects generalizing blanks with
  | nil => exact readMembers_of_end (nextKey_of_end blank rest)
  | @field pending draft changed final member members name field named wanted holds _ ih =>
      obtain ⟨isWritten, others⟩ := List.forall_mem_cons.mp areWritten
      rw [Member.followers_cons, List.cons_append, List.append_assoc,
        readMembers_of_field (isWritten.nextKey_later named blank _) wanted
          (isWritten.takeColon_afterName _) (holds _)]
      exact ih ((List.eraseP_sublist).trans sub) others isWritten.back
  | @other pending draft final member members name named unknown _ ih =>
      obtain ⟨isWritten, others⟩ := List.forall_mem_cons.mp areWritten
      have ends := (endsNumber_followers members rest).append isWritten.back
      rw [Member.followers_cons, List.cons_append, List.append_assoc,
        readMembers_of_other (isWritten.nextKey_later named blank _) (find?_eq_none sub unknown)
          unknown (isWritten.takeColon_afterName _)
          (skipValue_eq isWritten.beforeValue isWritten.value ends)]
      exact ih sub others isWritten.back

/-- Members that have been read fill the draft. -/
theorem collects_of_readMembers (faithful : record.IsFaithful)
    (sub : pending.Sublist record.fields) (areWritten : ∀ member ∈ members, member.IsWritten)
    (blank : AreBlanks blanks) {rest after : Octets}
    (read : record.readMembers pending draft false
      (blanks ++ (Member.followers members ++ 0x7d :: rest)) = .ok (final, after)) :
    record.Collects pending draft members final ∧ after = 0x7d :: rest := by
  induction members generalizing pending draft blanks with
  | nil =>
      have ended : nextKey false (blanks ++ (Member.followers [] ++ 0x7d :: rest)) =
          .ok (none, 0x7d :: rest) := nextKey_of_end blank rest
      rw [readMembers_of_end ended] at read
      cases read
      exact ⟨.nil, rfl⟩
  | cons member members ih =>
      obtain ⟨isWritten, others⟩ := List.forall_mem_cons.mp areWritten
      obtain ⟨name, named⟩ := isWritten.named
      have ends := (endsNumber_followers members rest).append isWritten.back
      rw [Member.followers_cons, List.cons_append, List.append_assoc] at read
      obtain ⟨value, colon, ⟨field, changed, unread, wanted, taken, later⟩ |
        ⟨unknown, unread, skipped, later⟩⟩ :=
          readMembers_eq_ok (isWritten.nextKey_later named blank _) read
      · obtain rfl := Except.ok.inj ((isWritten.takeColon_afterName _).symm.trans colon)
        have known := sub.subset (List.mem_of_find?_eq_some wanted)
        obtain ⟨rfl, holds⟩ := (faithful field known draft).read_append isWritten.beforeValue
          isWritten.value ends taken
        obtain ⟨collects, same⟩ := ih ((List.eraseP_sublist).trans sub) others isWritten.back later
        exact ⟨.field named wanted holds collects, same⟩
      · obtain rfl := Except.ok.inj ((isWritten.takeColon_afterName _).symm.trans colon)
        have passed := skipValue_eq isWritten.beforeValue isWritten.value ends
        obtain rfl := Except.ok.inj (passed.symm.trans skipped)
        obtain ⟨collects, same⟩ := ih sub others isWritten.back later
        exact ⟨.other named unknown collects, same⟩

/-! ## Members that are put in -/

/-- Members that are put in leave the draft as it is filled. -/
theorem collects_iff {members' : List Member}
    (inserts : Member.Inserts record.names members members')
    (sub : pending.Sublist record.fields) :
    record.Collects pending draft members' final ↔ record.Collects pending draft members final := by
  induction inserts generalizing pending draft with
  | nil => exact Iff.rfl
  | keep member _ ih =>
      constructor
      · intro collects
        cases collects with
        | field named wanted holds later =>
            exact .field named wanted holds ((ih ((List.eraseP_sublist).trans sub)).mp later)
        | other named unknown later => exact .other named unknown ((ih sub).mp later)
      · intro collects
        cases collects with
        | field named wanted holds later =>
            exact .field named wanted holds ((ih ((List.eraseP_sublist).trans sub)).mpr later)
        | other named unknown later => exact .other named unknown ((ih sub).mpr later)
  | insert foreign _ ih =>
      constructor
      · intro collects
        cases collects with
        | field named wanted _ _ =>
            have missing := find?_eq_none sub (foreign.unknown _ named)
            cases missing.symm.trans wanted
        | other _ _ later => exact (ih sub).mp later
      · intro collects
        obtain ⟨name, named⟩ := foreign.isWritten.named
        exact .other named (foreign.unknown name named) ((ih sub).mpr collects)

/-! ## Reading a whole object -/

theorem readObject_eq_ok_iff {value : Value} :
    record.readObject input = .ok (value, rest) ↔
      ∃ draft unread,
        record.readMembers record.fields record.empty true input = .ok (draft, unread) ∧
          record.finish draft = .ok value ∧ rest = afterObject unread := by
  constructor
  · intro read
    rw [readObject] at read
    cases taken : record.readMembers record.fields record.empty true input with
    | error failure =>
        rw [taken] at read
        cases read
    | ok pair =>
        obtain ⟨draft, unread⟩ := pair
        rw [taken] at read
        dsimp only [bind, Except.bind] at read
        split at read
        · rename_i found finished
          cases read
          exact ⟨draft, unread, rfl, finished, rfl⟩
        · cases read
  · rintro ⟨draft, unread, taken, finished, rfl⟩
    simp [readObject, taken, finished, bind, Except.bind]

theorem read_append_cons (blank : AreBlanks blanks) (input : Octets) :
    record.read (blanks ++ 0x7b :: input) = record.readObject input := by
  rw [Record.read, skipBlanks_append_cons blank rfl]
  rfl

/-- An object is read as what its members fill a draft with. -/
theorem readWhole_bytes_iff (faithful : record.IsFaithful) {object : ObjectText}
    (isWritten : object.IsWritten) {value : Value} :
    readWhole record.read object.bytes = .ok value ↔
      ∃ draft, record.Collects record.fields record.empty object.members draft ∧
        record.finish draft = .ok value := by
  have start : record.readMembers record.fields record.empty true _ = _ :=
    readMembers_congr (nextKey_members isWritten.members isWritten.inner object.back)
  rw [readWhole_eq_ok_iff, ObjectText.bytes, read_append_cons isWritten.front]
  simp only [readObject_eq_ok_iff, start]
  constructor
  · rintro ⟨_, ⟨draft, unread, read, finished, rfl⟩, -⟩
    obtain ⟨collects, -⟩ :=
      collects_of_readMembers faithful (List.Sublist.refl _) isWritten.members areBlanks_nil read
    exact ⟨draft, collects, finished⟩
  · rintro ⟨draft, collects, finished⟩
    refine ⟨_, ⟨draft, 0x7d :: object.back, ?_, finished, rfl⟩, ?_⟩
    · exact collects.readMembers_eq (List.Sublist.refl _) isWritten.members areBlanks_nil _
    · rw [afterObject, skipBlanks_cons rfl]
      exact skipBlanks_of_areBlanks isWritten.back

/-- Members that are put in make no difference to what is read. -/
theorem readWhole_iff (faithful : record.IsFaithful) {object : ObjectText}
    (isWritten : object.IsWritten) {members : List Member}
    (inserts : Member.Inserts record.names object.members members) {value : Value} :
    readWhole record.read { object with members }.bytes = .ok value ↔
      readWhole record.read object.bytes = .ok value := by
  have isWritten' : { object with members }.IsWritten :=
    { isWritten with members := inserts.areWritten isWritten.members }
  simp only [readWhole_bytes_iff faithful isWritten, readWhole_bytes_iff faithful isWritten',
    collects_iff inserts (List.Sublist.refl _)]

/-! ## Objects that are read are written -/

/-- Members that are read are written, up to the bracket behind them. -/
theorem exists_members (faithful : record.IsFaithful) (sub : pending.Sublist record.fields)
    (read : record.readMembers pending draft isFirst input = .ok (final, rest)) :
    ∃ blanks members after, AreBlanks blanks ∧ (∀ member ∈ members, member.IsWritten) ∧
      rest = 0x7d :: after ∧
      input = blanks ++ ((if isFirst then [0x2c].intercalate (members.map Member.bytes)
        else Member.followers members) ++ rest) := by
  induction size : input.length using Nat.strongRecOn generalizing pending draft isFirst input with
  | ind size ih =>
      subst size
      cases next : nextKey isFirst input with
      | error failure =>
          rw [readMembers_eq, next] at read
          cases read
      | ok pair =>
          obtain ⟨_ | name, unread⟩ := pair
          · rw [readMembers_of_end next] at read
            cases read
            obtain ⟨blanks, after, blank, same, joined⟩ := exists_of_nextKey_none next
            refine ⟨blanks, [], after, blank, List.forall_mem_nil _, same, ?_⟩
            cases isFirst <;> exact joined
          · obtain ⟨value, colon, held⟩ := readMembers_eq_ok next read
            obtain ⟨pending', draft', after, sub', skipped, later⟩ : ∃ pending' draft' after,
                pending'.Sublist record.fields ∧ skipValue value = .ok after ∧
                  record.readMembers pending' draft' false after = .ok (final, rest) := by
              obtain ⟨field, changed, after, wanted, taken, later⟩ |
                ⟨-, after, skipped, later⟩ := held
              · have known := sub.subset (List.mem_of_find?_eq_some wanted)
                exact ⟨_, changed, after, (List.eraseP_sublist).trans sub,
                  (faithful field known draft).skips taken, later⟩
              · exact ⟨pending, draft, after, sub, skipped, later⟩
            have shorter : after.length < input.length := by
              have := length_nextKey_lt next
              have := length_takeColon_lt colon
              have := length_skipValue_le skipped
              omega
            obtain ⟨back, members, ending, blankBack, areWritten, same, rfl⟩ :=
              ih after.length shorter sub' later rfl
            obtain ⟨beforeValue, bytes, blankValue, isValue, rfl⟩ := exists_isValue skipped
            obtain ⟨beforeColon, blankColon, rfl⟩ := exists_of_takeColon colon
            obtain ⟨blanks, front, written, blank, blankFront, spells, rfl⟩ :=
              exists_of_nextKey_some next
            have isWritten : Member.IsWritten
                ⟨front, written, beforeColon, beforeValue, bytes, back⟩ :=
              ⟨blankFront, ⟨name, spells⟩, blankColon, blankValue, isValue, blankBack⟩
            refine ⟨blanks, _ :: members, ending, blank,
              List.forall_mem_cons.mpr ⟨isWritten, areWritten⟩, same, ?_⟩
            cases isFirst with
            | true =>
                rw [if_pos rfl, Member.intercalate_cons]
                simp [divider, Member.bytes, Member.afterName]
            | false =>
                rw [if_neg Bool.false_ne_true, Member.followers_cons]
                simp [divider, Member.bytes, Member.afterName]

/-- An object from which the record is read is written. -/
theorem exists_isWritten (faithful : record.IsFaithful) {body : Octets} {value : Value}
    {after : Octets} (object : skipBlanks body = 0x7b :: after)
    (read : readWhole record.read body = .ok value) :
    ∃ object : ObjectText, object.IsWritten ∧ object.bytes = body := by
  obtain ⟨front, blankFront, same⟩ := exists_areBlanks body
  rw [object] at same
  subst same
  obtain ⟨rest, read, closed⟩ := readWhole_eq_ok_iff.mp read
  rw [read_append_cons blankFront] at read
  obtain ⟨draft, unread, taken, -, rfl⟩ := readObject_eq_ok_iff.mp read
  obtain ⟨inner, members, back, blankInner, areWritten, rfl, rfl⟩ :=
    exists_members faithful (List.Sublist.refl _) taken
  have blankBack : AreBlanks back := by
    rw [afterObject, skipBlanks_cons rfl] at closed
    exact List.dropWhile_eq_nil_iff.mp closed
  exact ⟨⟨front, inner, members, back⟩, ⟨blankFront, blankInner, areWritten, blankBack⟩, rfl⟩

end Record

end SessionGate.Json
