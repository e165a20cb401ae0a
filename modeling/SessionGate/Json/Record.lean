import SessionGate.Json.Reader

/-!
# Reading records

A record is an object of named fields, or the list of its fields in order. Fields of an object
come in any order and at most once; members with other names are passed over. In a list a record
either needs all of its fields or takes the missing ones at the end by default, and it ends with
its last field.
-/

namespace SessionGate.Json

/-- A field of a record: its name, and how its value goes into what has been read so far. -/
structure RecordField (Draft : Type) where
  name : String
  read : Draft → Reader Draft

/-- How to read a record: what to call it, what is known before any field is read, the fields in
order, and the value of a full draft. -/
structure Record (Draft Value : Type) where
  wanted : String
  empty : Draft
  fields : List (RecordField Draft)
  finish : Draft → Except Mismatch Value
  hasDefaults : Bool

variable {Draft Value : Type}

/-- Look for the next key of an object; there is none before its closing bracket. -/
def nextKey (isFirst : Bool) (input : Octets) : Except Failure (Option String × Octets) :=
  let key (input : Octets) : Except Failure (Option String × Octets) :=
    (readText input).map fun (name, rest) => (some name, rest)
  match skipBlanks input with
  | [] => mistakeOn .endInObject []
  | byte :: rest =>
      if byte = 0x7d then .ok (none, byte :: rest)
      else if isFirst then
        if byte = 0x22 then key rest else mistakeOn .keyNotText (byte :: rest)
      else if byte = 0x2c then
        match skipBlanks rest with
        | [] => mistakeOn .endInValue []
        | next :: after =>
            if next = 0x22 then key after
            else if next = 0x7d then mistakeOn .trailingComma (next :: after)
            else mistakeOn .keyNotText (next :: after)
      else mistakeOn .expectedObjectEnd (byte :: rest)

/-- What is left after the closing bracket of an object, or before whatever stands in its
place. -/
def afterObject (input : Octets) : Octets :=
  match skipBlanks input with
  | byte :: rest => if byte = 0x7d then rest else byte :: rest
  | [] => []

/-- Whether a list has a next element, and the input before it or before the closing bracket. -/
def nextElement (isFirst : Bool) (input : Octets) : Except Failure (Bool × Octets) :=
  match skipBlanks input with
  | [] => mistakeOn .endInList []
  | byte :: rest =>
      if byte = 0x5d then .ok (false, byte :: rest)
      else if isFirst then .ok (true, byte :: rest)
      else if byte = 0x2c then
        match skipBlanks rest with
        | [] => mistakeOn .endInValue []
        | next :: after =>
            if next = 0x5d then mistakeOn .trailingComma (next :: after)
            else .ok (true, next :: after)
      else mistakeOn .expectedListEnd (byte :: rest)

/-- Take the closing bracket of a list. -/
def closeList (input : Octets) : Except Failure Octets :=
  match skipBlanks input with
  | [] => mistakeOn .endInList []
  | byte :: rest =>
      if byte = 0x5d then .ok rest
      else if byte = 0x2c then
        match skipBlanks rest with
        | next :: after =>
            if next = 0x5d then mistakeOn .trailingComma (next :: after)
            else mistakeOn .trailingCharacters (next :: after)
        | [] => mistakeOn .trailingCharacters []
      else mistakeOn .trailingCharacters (byte :: rest)

theorem length_takeText_lt {state : TextState} {reversed input bytes rest : Octets}
    (h : takeText state reversed input = .ok (bytes, rest)) : rest.length < input.length := by
  induction input generalizing state reversed with
  | nil => cases state <;> cases h
  | cons byte tail ih =>
      have shorter {state : TextState} {reversed : Octets}
          (h : takeText state reversed tail = .ok (bytes, rest)) :
          rest.length < (byte :: tail).length := by
        have := ih h
        simp only [List.length_cons]
        omega
      cases state with
      | plain =>
          simp only [takeText] at h
          split at h
          · cases h; simp
          · split at h
            · exact shorter h
            · split at h
              · cases h
              · exact shorter h
      | escape =>
          simp only [takeText] at h
          split at h
          · exact shorter h
          · split at h
            · exact shorter h
            · cases h
      | digits leading taken =>
          simp only [takeText] at h
          split at h
          · exact shorter h
          · split at h
            · exact shorter h
            · cases h
      | pairBackslash leading =>
          simp only [takeText] at h
          split at h
          · exact shorter h
          · cases h
      | pairLetter leading =>
          simp only [takeText] at h
          split at h
          · exact shorter h
          · cases h

theorem length_readText_lt {input rest : Octets} {written : String}
    (h : readText input = .ok (written, rest)) : rest.length < input.length := by
  unfold readText at h
  cases taken : takeText .plain [] input with
  | error failure => rw [taken] at h; cases h
  | ok found =>
      obtain ⟨bytes, after⟩ := found
      rw [taken] at h
      simp only [bind, Except.bind] at h
      split at h
      · cases h
        exact length_takeText_lt taken
      · cases h

theorem length_nextKey_lt {isFirst : Bool} {input rest : Octets} {name : String}
    (h : nextKey isFirst input = .ok (some name, rest)) : rest.length < input.length := by
  have readKey {input : Octets}
      (h : ((readText input).map fun (name, rest) => (some name, rest)) = .ok (some name, rest)) :
      rest.length < input.length := by
    cases taken : readText input with
    | error failure => rw [taken] at h; cases h
    | ok found =>
        rw [taken] at h
        cases h
        exact length_readText_lt taken
  unfold nextKey at h
  simp only at h
  split at h
  · cases h
  · rename_i byte tail found
    have bound := length_of_skipBlanks_eq_cons found
    split at h
    · cases h
    · split at h
      · split at h
        · exact Nat.lt_trans (readKey h) bound
        · cases h
      · split at h
        · split at h
          · cases h
          · rename_i next after following
            have := length_of_skipBlanks_eq_cons following
            split at h
            · exact Nat.lt_trans (readKey h) (by omega)
            · split at h <;> cases h
        · cases h

namespace Record

/-- Read the members of an object up to its closing bracket. `pending` holds the fields that have
not been read yet. -/
def readMembers (record : Record Draft Value) (pending : List (RecordField Draft)) (draft : Draft)
    (isFirst : Bool) (input : Octets) : Except Failure (Draft × Octets) :=
  match _next : nextKey isFirst input with
  | .error failure => .error failure
  | .ok (none, rest) => .ok (draft, rest)
  | .ok (some name, rest) =>
      match _wanted : pending.find? (·.name == name) with
      | some field =>
          match takeColon rest with
          | .error failure => .error failure
          | .ok value =>
              match field.read draft value with
              | .error failure => .error (failure.within (.field name))
              | .ok (draft, rest) =>
                  record.readMembers (pending.eraseP (·.name == name)) draft false rest
      | none =>
          if record.fields.any (·.name == name) then
            mismatchAt (.duplicateField name) (afterObject rest)
          else
            match _colon : takeColon rest with
            | .error failure => .error failure
            | .ok value =>
                match _skipped : skipValue value with
                | .error failure => .error (failure.within (.field name))
                | .ok rest => record.readMembers pending draft false rest
termination_by (pending.length, input.length)
decreasing_by
  · apply Prod.Lex.left
    have known := List.find?_some _wanted
    have member := List.mem_of_find?_eq_some _wanted
    have := List.length_pos_of_mem member
    rw [List.length_eraseP_of_mem member known]
    omega
  · apply Prod.Lex.right
    have := length_nextKey_lt _next
    have := length_takeColon_lt _colon
    have := length_skipValue_le _skipped
    omega

/-- Read the record from an object, after its opening bracket. -/
def readObject (record : Record Draft Value) : Reader Value := fun input => do
  let (draft, rest) ← record.readMembers record.fields record.empty true input
  let rest := afterObject rest
  match record.finish draft with
  | .ok value => .ok (value, rest)
  | .error mismatch => mismatchAt mismatch rest

/-- What a list of all fields is called. -/
def wantedLength (record : Record Draft Value) : String :=
  record.wanted ++ " with " ++ Decimal.text record.fields.length ++
    (if record.fields.length = 1 then " element" else " elements")

/-- Read fields in order from the elements of a list, of which `index` have been read. -/
def readElements (record : Record Draft Value) :
    List (RecordField Draft) → Nat → Draft → Octets → Except Failure (Draft × Octets)
  | [], _, draft, input => .ok (draft, input)
  | field :: fields, index, draft, input => do
      let (found, rest) ← nextElement (index == 0) input
      if found then
        let (draft, rest) ←
          (field.read draft rest).mapError (Failure.within (.element index))
        record.readElements fields (index + 1) draft rest
      else if record.hasDefaults then .ok (draft, rest)
      else mismatchAt (.wrongLength index record.wantedLength) (rest.drop 1)

/-- Read the record from a list, after its opening bracket. -/
def readList (record : Record Draft Value) : Reader Value := fun input => do
  let (draft, rest) ← record.readElements record.fields 0 record.empty input
  let rest ← closeList rest
  match record.finish draft with
  | .ok value => .ok (value, rest)
  | .error mismatch => mismatchAt mismatch rest

def read (record : Record Draft Value) : Reader Value := fun input =>
  match skipBlanks input with
  | [] => mistakeOn .endInValue []
  | byte :: rest =>
      if byte = 0x7b then record.readObject rest
      else if byte = 0x5b then record.readList rest
      else refuseKind record.wanted (byte :: rest)

end Record

/-- The value of a field that has to be there. -/
def required {α : Type} (name : String) : Option α → Except Mismatch α
  | some value => .ok value
  | none => .error (.missingField name)

end SessionGate.Json
