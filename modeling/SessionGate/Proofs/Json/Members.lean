import SessionGate.Json.Record
import SessionGate.Proofs.Json.Written

/-!
# Members of records

What reading the members of an object comes to at each of them: a field of the record that has not
been read, a member of no field, and the closing bracket. Objects that were written have no blanks.
-/

namespace SessionGate.Json

theorem takeColon_cons (rest : Octets) : takeColon (0x3a :: rest) = .ok rest := by
  rw [takeColon, skipBlanks_cons (by decide)]
  rfl

theorem nextKey_first {name : String} (plain : (Octets.ofText name).all isPlainText = true)
    (rest : Octets) :
    nextKey true (0x22 :: (Octets.ofText name ++ 0x22 :: rest)) = .ok (some name, rest) := by
  rw [nextKey, skipBlanks_cons (by decide)]
  simp [readText_of_plain plain, Except.map]

theorem nextKey_later {name : String} (plain : (Octets.ofText name).all isPlainText = true)
    (rest : Octets) :
    nextKey false (0x2c :: 0x22 :: (Octets.ofText name ++ 0x22 :: rest)) =
      .ok (some name, rest) := by
  rw [nextKey, skipBlanks_cons (by decide)]
  simp [skipBlanks_cons (show isBlank 0x22 = false by decide), readText_of_plain plain, Except.map]

theorem nextKey_end (isFirst : Bool) (rest : Octets) :
    nextKey isFirst (0x7d :: rest) = .ok (none, 0x7d :: rest) := by
  rw [nextKey, skipBlanks_cons (by decide)]
  rfl

namespace Record

variable {Draft Value : Type} {record : Record Draft Value} {pending : List (RecordField Draft)}
  {draft : Draft} {isFirst : Bool} {input rest : Octets} {name : String}

/-- The names of the fields. -/
def names (record : Record Draft Value) : List String :=
  record.fields.map RecordField.name

theorem any_name_eq_false_iff :
    record.fields.any (·.name == name) = false ↔ name ∉ record.names := by
  rw [← Bool.not_eq_true, List.any_eq_true, names, List.mem_map]
  simp

/-- Reading members, without the evidence that it ends. -/
theorem readMembers_eq (record : Record Draft Value) (pending : List (RecordField Draft))
    (draft : Draft) (isFirst : Bool) (input : Octets) :
    record.readMembers pending draft isFirst input =
      match nextKey isFirst input with
      | .error failure => .error failure
      | .ok (none, rest) => .ok (draft, rest)
      | .ok (some name, rest) =>
          match pending.find? (·.name == name) with
          | some field => (takeColon rest).bind fun value =>
              match field.read draft value with
              | .error failure => .error (failure.within (.field name))
              | .ok (draft, rest) =>
                  record.readMembers (pending.eraseP (·.name == name)) draft false rest
          | none =>
              if record.fields.any (·.name == name) then
                mismatchAt (.duplicateField name) (afterObject rest)
              else (takeColon rest).bind fun value =>
                match skipValue value with
                | .error failure => .error (failure.within (.field name))
                | .ok rest => record.readMembers pending draft false rest := by
  rw [readMembers]
  split
  · rename_i same
    rw [same]
  · rename_i same
    rw [same]
  · rename_i name rest same
    rw [same]
    dsimp only
    split
    · rename_i wanted
      rw [wanted]
      cases takeColon rest <;> rfl
    · rename_i missing
      rw [missing]
      dsimp only
      congr 1
      cases takeColon rest with
      | error failure => rfl
      | ok value =>
          dsimp only [Except.bind]
          cases skipValue value <;> rfl

theorem readMembers_congr {isFirst' : Bool} {input' : Octets}
    (same : nextKey isFirst input = nextKey isFirst' input') :
    record.readMembers pending draft isFirst input =
      record.readMembers pending draft isFirst' input' := by
  rw [readMembers_eq, readMembers_eq, same]

theorem readMembers_of_end (next : nextKey isFirst input = .ok (none, rest)) :
    record.readMembers pending draft isFirst input = .ok (draft, rest) := by
  rw [readMembers_eq, next]

theorem readMembers_of_field {value after : Octets}
    {field : RecordField Draft} {changed : Draft}
    (next : nextKey isFirst input = .ok (some name, rest))
    (wanted : pending.find? (·.name == name) = some field)
    (colon : takeColon rest = .ok value)
    (read : field.read draft value = .ok (changed, after)) :
    record.readMembers pending draft isFirst input =
      record.readMembers (pending.eraseP (·.name == name)) changed false after := by
  rw [readMembers_eq, next]
  dsimp only
  rw [wanted]
  dsimp only
  rw [colon]
  dsimp only [Except.bind]
  rw [read]

theorem readMembers_of_other {value after : Octets}
    (next : nextKey isFirst input = .ok (some name, rest))
    (missing : pending.find? (·.name == name) = none) (unknown : name ∉ record.names)
    (colon : takeColon rest = .ok value) (skipped : skipValue value = .ok after) :
    record.readMembers pending draft isFirst input =
      record.readMembers pending draft false after := by
  have isUnknown : ¬ record.fields.any (·.name == name) = true := by
    rw [any_name_eq_false_iff.mpr unknown]
    exact Bool.false_ne_true
  rw [readMembers_eq, next]
  dsimp only
  rw [missing]
  dsimp only
  rw [if_neg isUnknown, colon]
  dsimp only [Except.bind]
  rw [skipped]

/-- What has happened to a member when the members have been read. -/
theorem readMembers_eq_ok {result : Draft × Octets}
    (next : nextKey isFirst input = .ok (some name, rest))
    (read : record.readMembers pending draft isFirst input = .ok result) :
    ∃ value, takeColon rest = .ok value ∧
      ((∃ field changed after, pending.find? (·.name == name) = some field ∧
          field.read draft value = .ok (changed, after) ∧
          record.readMembers (pending.eraseP (·.name == name)) changed false after = .ok result) ∨
        (name ∉ record.names ∧ ∃ after, skipValue value = .ok after ∧
          record.readMembers pending draft false after = .ok result)) := by
  rw [readMembers_eq, next] at read
  dsimp only at read
  split at read
  · rename_i field wanted
    cases colon : takeColon rest with
    | error failure =>
        rw [colon] at read
        cases read
    | ok value =>
        rw [colon] at read
        dsimp only [Except.bind] at read
        split at read
        · cases read
        · rename_i changed after taken
          exact ⟨value, rfl, .inl ⟨field, changed, after, wanted, taken, read⟩⟩
  · split at read
    · cases read
    · rename_i notAny
      have unknown : name ∉ record.names := by
        rwa [← any_name_eq_false_iff, ← Bool.not_eq_true]
      cases colon : takeColon rest with
      | error failure =>
          rw [colon] at read
          cases read
      | ok value =>
          rw [colon] at read
          dsimp only [Except.bind] at read
          split at read
          · cases read
          · rename_i after skipped
            exact ⟨value, rfl, .inr ⟨unknown, after, skipped, read⟩⟩

/-- What reading an object comes to when its members have been read up to the bracket at the end of
the input. -/
theorem read_of_members {members : Octets} {value : Value}
    (read : record.readMembers record.fields record.empty true members = .ok (draft, [0x7d]))
    (finished : record.finish draft = .ok value) :
    readWhole record.read (0x7b :: members) = .ok value := by
  have closed : afterObject [0x7d] = [] := by decide
  have object : record.readObject members = .ok (value, []) := by
    simp [readObject, read, closed, finished, bind, Except.bind]
  have whole : record.read (0x7b :: members) = .ok (value, []) := by
    rw [Record.read, skipBlanks_cons (by decide)]
    exact object
  rw [readWhole, whole]
  rfl

end Record

end SessionGate.Json
