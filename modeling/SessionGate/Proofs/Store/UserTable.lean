import SessionGate.Store.UserTable

/-!
# Inserting accounts

An insertion that succeeds appends one account under the next id and changes the look-up of its
own email address only. One that fails has found a part missing or the address taken.
-/

namespace SessionGate

def UserRow.withId (row : UserRow) (id : UserId) : User :=
  ⟨id, row.email, row.name, row.password, row.role⟩

namespace UserTable

variable {table after : UserTable} {row : UserRow} {id : UserId}

theorem contains_eq_isSome (table : UserTable) (email : String) :
    table.contains email = (table.find? email).isSome :=
  List.isSome_find?.symm

theorem contains_eq_false_iff {email : String} :
    table.contains email = false ↔ table.find? email = none := by
  rw [contains_eq_isSome, Option.isSome_eq_false_iff, Option.isNone_iff_eq_none]

theorem insert_of_complete (email : row.email.isEmpty = false)
    (record : row.password.octets.isEmpty = false) :
    table.insert row =
      if table.contains row.email then .error .alreadyExists
      else .ok (table.lastId + 1,
        ⟨table.lastId + 1, table.users ++ [row.withId (table.lastId + 1)]⟩) := by
  rw [insert, email, record]
  rfl

/-- What an insertion that succeeds has found, and what it makes. -/
theorem insert_eq_ok_iff :
    table.insert row = .ok (id, after) ↔
      row.email.isEmpty = false ∧ row.password.octets.isEmpty = false ∧
        table.find? row.email = none ∧ id = table.lastId + 1 ∧
        after = ⟨id, table.users ++ [row.withId id]⟩ := by
  rw [← contains_eq_false_iff]
  constructor
  · intro inserted
    cases email : row.email.isEmpty with
    | true => simp [insert, email] at inserted
    | false =>
        cases record : row.password.octets.isEmpty with
        | true => simp [insert, record] at inserted
        | false =>
            rw [insert_of_complete email record] at inserted
            split at inserted
            · cases inserted
            · rename_i free
              obtain ⟨rfl, rfl⟩ := Prod.mk.inj (Except.ok.inj inserted)
              exact ⟨rfl, rfl, Bool.eq_false_iff.mpr free, rfl, rfl⟩
  · rintro ⟨email, record, free, rfl, rfl⟩
    rw [insert_of_complete email record, free]
    rfl

theorem find?_insert (inserted : table.insert row = .ok (id, after)) (email : String) :
    after.find? email = if email = row.email then some (row.withId id) else table.find? email := by
  obtain ⟨-, -, free, -, rfl⟩ := insert_eq_ok_iff.mp inserted
  simp only [find?, List.find?_append] at free ⊢
  by_cases same : email = row.email
  · subst same
    simp [free, UserRow.withId]
  · have differs : (row.email == email) = false := by simpa using Ne.symm same
    simp [UserRow.withId, differs, same]

/-! ## Rows inserted one after another -/

/-- The table after rows for free addresses have been inserted, in their order. -/
def enrolled (table : UserTable) (rows : List UserRow) : UserTable :=
  ⟨table.lastId + Int64.ofNat rows.length,
    table.users ++ rows.zipIdx.map fun (row, index) =>
      row.withId (table.lastId + 1 + Int64.ofNat index)⟩

theorem ofNat_succ (number : Nat) : Int64.ofNat (number + 1) = Int64.ofNat number + 1 := by
  apply Int64.toBitVec_inj.mp
  exact BitVec.ofNat_add number 1

theorem enrolled_concat (table : UserTable) (rows : List UserRow) (row : UserRow) :
    table.enrolled (rows ++ [row]) =
      ⟨(table.enrolled rows).lastId + 1,
        (table.enrolled rows).users ++ [row.withId ((table.enrolled rows).lastId + 1)]⟩ := by
  have next : table.lastId + 1 + Int64.ofNat rows.length =
      table.lastId + Int64.ofNat rows.length + 1 := by
    rw [Int64.add_assoc, Int64.add_comm 1, ← Int64.add_assoc]
  have last : table.lastId + Int64.ofNat (rows.length + 1) =
      table.lastId + Int64.ofNat rows.length + 1 := by
    rw [ofNat_succ, Int64.add_assoc]
  simp only [enrolled, List.length_append, List.length_singleton, List.zipIdx_append,
    List.zipIdx_cons, List.zipIdx_nil, List.map_append, List.map_cons, List.map_nil,
    List.append_assoc, Nat.zero_add, next, last]

/-- Inserting one more row enrols it, if its address is free. -/
theorem insert_enrolled (email : row.email.isEmpty = false)
    (record : row.password.octets.isEmpty = false) (table : UserTable) (rows : List UserRow) :
    (table.enrolled rows).insert row =
      if (table.enrolled rows).contains row.email then .error .alreadyExists
      else .ok (table.lastId + 1 + Int64.ofNat rows.length, table.enrolled (rows ++ [row])) := by
  have next : (table.enrolled rows).lastId + 1 =
      table.lastId + 1 + Int64.ofNat rows.length := by
    rw [enrolled, Int64.add_assoc, Int64.add_comm _ 1, ← Int64.add_assoc]
  rw [insert_of_complete email record, enrolled_concat, next]

theorem find?_enrolled_of_forall_ne {rows : List UserRow} {email : String}
    (others : ∀ row ∈ rows, row.email ≠ email) :
    (table.enrolled rows).find? email = table.find? email := by
  have none : (rows.zipIdx.map fun (row, index) =>
      row.withId (table.lastId + 1 + Int64.ofNat index)).find? (·.email == email) = none := by
    rw [List.find?_eq_none]
    intro user member
    obtain ⟨⟨row, index⟩, inside, rfl⟩ := List.mem_map.mp member
    simpa [UserRow.withId] using others row (List.fst_mem_of_mem_zipIdx inside)
  rw [find?, enrolled, List.find?_append, none, Option.or_none]
  rfl

/-- An address is free after the insertions when it was before, and no row is for it. -/
theorem find?_enrolled_eq_none_iff {rows : List UserRow} {email : String} :
    (table.enrolled rows).find? email = none ↔
      table.find? email = none ∧ ∀ row ∈ rows, row.email ≠ email := by
  constructor
  · intro absent
    rw [find?, enrolled, List.find?_append, Option.or_eq_none_iff] at absent
    refine ⟨absent.1, fun row member => ?_⟩
    obtain ⟨index, place⟩ := List.getElem?_of_mem member
    have inside : (row, index) ∈ rows.zipIdx := List.mem_zipIdx_iff_getElem?.mpr place
    have differs := List.find?_eq_none.mp absent.2 _ (List.mem_map_of_mem inside)
    simpa [UserRow.withId] using differs
  · rintro ⟨absent, others⟩
    rw [find?_enrolled_of_forall_ne others, absent]

private theorem find?_zipIdx {rows : List UserRow} (distinct : (rows.map UserRow.email).Nodup)
    (base : UserId) {index : Nat} (found : rows[index]? = some row) (offset : Nat) :
    ((rows.zipIdx offset).map fun (row, index) =>
      row.withId (base + Int64.ofNat index)).find? (·.email == row.email) =
        some (row.withId (base + Int64.ofNat (offset + index))) := by
  induction rows generalizing index offset with
  | nil => simp at found
  | cons first rest ih =>
      rw [List.map_cons, List.nodup_cons] at distinct
      cases index with
      | zero =>
          obtain rfl : first = row := by simpa using found
          simp [UserRow.withId]
      | succ index =>
          have later : rest[index]? = some row := by simpa using found
          have differs : (first.email == row.email) = false := by
            rw [beq_eq_false_iff_ne]
            intro same
            exact distinct.1 (same ▸ List.mem_map_of_mem (List.mem_of_getElem? later))
          have shifted := ih distinct.2 later (offset + 1)
          have order : offset + 1 + index = offset + (index + 1) := by omega
          rw [order] at shifted
          rw [List.zipIdx_cons, List.map_cons, List.find?_cons]
          simp only [UserRow.withId, differs]
          exact shifted

/-- A row enrolled under a free address is found there, with the id of its place. -/
theorem find?_enrolled {rows : List UserRow} (distinct : (rows.map UserRow.email).Nodup)
    (free : table.find? row.email = none) {index : Nat} (found : rows[index]? = some row) :
    (table.enrolled rows).find? row.email =
      some (row.withId (table.lastId + 1 + Int64.ofNat index)) := by
  have here := find?_zipIdx distinct (table.lastId + 1) found 0
  rw [Nat.zero_add] at here
  rw [find?] at free
  rw [find?, enrolled, List.find?_append, free, Option.none_or]
  exact here

theorem contains_enrolled_concat {rows : List UserRow} {email : String}
    (taken : (table.enrolled rows).contains email = true) :
    (table.enrolled (rows ++ [row])).contains email = true := by
  rw [enrolled_concat]
  simp only [contains, List.any_append, Bool.or_eq_true]
  exact .inl taken

end UserTable

end SessionGate
