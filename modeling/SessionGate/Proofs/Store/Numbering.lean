import Mathlib.Algebra.Group.Nat.Defs
import Mathlib.Data.List.Nodup
import SessionGate.Proofs.Store.UserTable

/-!
# The numbering of accounts

A table numbers its accounts from one, in the order of their insertion, and changes of roles leave
the numbers alone. So an id is that of one account at most, and whoever looks for that account finds
the same one, whatever the order in which the accounts are gone through.
-/

namespace SessionGate

def User.withRole (user : User) (role : Role) : User :=
  { user with role }

/-- Go through accounts in their order, and give the first one with the id another role. -/
def changeFirst (id : UserId) (role : Role) : List User → Option (List User)
  | [] => none
  | user :: users =>
      if user.id = id then some (user.withRole role :: users)
      else (changeFirst id role users).map (user :: ·)

/-- Give all accounts with the id another role. -/
def changeAll (id : UserId) (role : Role) (users : List User) : List User :=
  users.map fun user => if user.id = id then user.withRole role else user

section Changes

variable {id : UserId} {role : Role} {users front back : List User} {user : User}

theorem changeFirst_eq_none_iff :
    changeFirst id role users = none ↔ ∀ user ∈ users, user.id ≠ id := by
  induction users with
  | nil => simp [changeFirst]
  | cons user users ih =>
      by_cases same : user.id = id
      · simp [changeFirst, same]
      · simp [changeFirst, same, ih]

theorem changeFirst_append_cons (passed : ∀ other ∈ front, other.id ≠ user.id) :
    changeFirst user.id role (front ++ user :: back) =
      some (front ++ user.withRole role :: back) := by
  induction front with
  | nil => simp [changeFirst]
  | cons other front ih =>
      have differs := passed other List.mem_cons_self
      have found := ih fun later member => passed later (List.mem_cons_of_mem _ member)
      simp [changeFirst, differs, found]

theorem changeAll_of_forall_ne (others : ∀ user ∈ users, user.id ≠ id) (role : Role) :
    changeAll id role users = users := by
  have same : changeAll id role users = users.map fun user => user :=
    List.map_congr_left fun user member => if_neg (others user member)
  rw [same, List.map_id']

theorem changeAll_append_cons (before : ∀ other ∈ front, other.id ≠ user.id)
    (behind : ∀ other ∈ back, other.id ≠ user.id) :
    changeAll user.id role (front ++ user :: back) = front ++ user.withRole role :: back := by
  have left := changeAll_of_forall_ne before role
  have right := changeAll_of_forall_ne behind role
  rw [changeAll] at left right ⊢
  rw [List.map_append, List.map_cons, left, right, if_pos rfl]

/-- What does not depend on roles is the same after a change of roles. -/
theorem map_changeAll {α : Type} {view : User → α}
    (blind : ∀ user : User, view (user.withRole role) = view user) (users : List User) :
    (changeAll id role users).map view = users.map view := by
  rw [changeAll, List.map_map]
  apply List.map_congr_left
  intro user _
  rw [Function.comp_apply]
  split
  · exact blind user
  · rfl

/-- Where ids are distinct, an id is that of one account alone. -/
theorem ne_of_distinct (distinct : ((front ++ user :: back).map User.id).Nodup) :
    (∀ other ∈ front, other.id ≠ user.id) ∧ ∀ other ∈ back, other.id ≠ user.id := by
  rw [List.map_append, List.map_cons, List.nodup_append] at distinct
  obtain ⟨-, behind, apart⟩ := distinct
  constructor
  · intro other member same
    exact apart other.id (List.mem_map_of_mem member) user.id List.mem_cons_self same
  · intro other member same
    exact (List.nodup_cons.mp behind).1 (same ▸ List.mem_map_of_mem member)

/-- Where ids are distinct, the first account with an id is all there are. -/
theorem changeFirst_of_distinct (distinct : (users.map User.id).Nodup) (member : user ∈ users) :
    changeFirst user.id role users = some (changeAll user.id role users) := by
  obtain ⟨front, back, rfl⟩ := List.append_of_mem member
  obtain ⟨before, behind⟩ := ne_of_distinct distinct
  rw [changeFirst_append_cons before, changeAll_append_cons before behind]

end Changes

namespace UserTable

variable {table after : UserTable} {row : UserRow} {id : UserId} {role : Role}

theorem setRole_eq (table : UserTable) (id : UserId) (role : Role) :
    table.setRole id role =
      if ∃ user ∈ table.users, user.id = id then
        .ok ⟨table.lastId, changeAll id role table.users⟩
      else .error .notFound := by
  rw [setRole]
  by_cases present : ∃ user ∈ table.users, user.id = id
  · have found : (table.users.any fun user => user.id == id) = true := by simpa using present
    rw [if_pos found, if_pos present]
    rfl
  · have missing : ¬ (table.users.any fun user => user.id == id) = true := by simpa using present
    rw [if_neg missing, if_neg present]

theorem setRole_eq_ok_iff :
    table.setRole id role = .ok after ↔
      (∃ user ∈ table.users, user.id = id) ∧
        after = ⟨table.lastId, changeAll id role table.users⟩ := by
  rw [setRole_eq]
  split
  · rename_i present
    rw [Except.ok.injEq, eq_comm, and_iff_right present]
  · rename_i missing
    simp only [reduceCtorEq, missing, false_and]

/-! ## What becomes of the numbers -/

theorem ids_insert (inserted : table.insert row = .ok (id, after)) :
    after.users.map User.id = table.users.map User.id ++ [id] := by
  obtain ⟨-, -, -, -, rfl⟩ := insert_eq_ok_iff.mp inserted
  simp [UserRow.withId]

theorem ids_setRole (changed : table.setRole id role = .ok after) :
    after.users.map User.id = table.users.map User.id := by
  obtain ⟨-, rfl⟩ := setRole_eq_ok_iff.mp changed
  exact map_changeAll (fun _ => rfl) _

/-- The accounts are numbered from one in their order, and their addresses are distinct. -/
structure IsNumbered (table : UserTable) : Prop where
  ids : table.users.map User.id = (List.range table.size).map fun index => Int64.ofNat (index + 1)
  lastId : table.lastId = Int64.ofNat table.size
  emails : (table.users.map User.email).Nodup

namespace IsNumbered

theorem empty : UserTable.empty.IsNumbered :=
  ⟨rfl, rfl, List.nodup_nil⟩

theorem insert (numbered : table.IsNumbered) (inserted : table.insert row = .ok (id, after)) :
    id = Int64.ofNat (table.size + 1) ∧ after.IsNumbered := by
  have ids := ids_insert inserted
  obtain ⟨-, -, free, next, rfl⟩ := insert_eq_ok_iff.mp inserted
  have given : id = Int64.ofNat (table.size + 1) := by rw [next, numbered.lastId, ofNat_succ]
  refine ⟨given, ?_, ?_, ?_⟩
  · rw [ids, numbered.ids, given]
    simp [size, List.range_succ]
  · simp [size, given]
  · have absent : row.email ∉ table.users.map User.email := by
      intro member
      obtain ⟨user, stored, same⟩ := List.mem_map.mp member
      simpa [same] using List.find?_eq_none.mp free user stored
    rw [List.map_append, List.map_singleton, ← List.concat_eq_append]
    exact numbered.emails.concat absent

theorem setRole (numbered : table.IsNumbered) (changed : table.setRole id role = .ok after) :
    after.IsNumbered := by
  have ids := ids_setRole changed
  obtain ⟨-, rfl⟩ := setRole_eq_ok_iff.mp changed
  have sameSize : (changeAll id role table.users).length = table.users.length := List.length_map _
  refine ⟨?_, ?_, ?_⟩
  · rw [ids, numbered.ids, size, size, sameSize]
  · rw [numbered.lastId, size, size, sameSize]
  · have emails : (changeAll id role table.users).map User.email = table.users.map User.email :=
      map_changeAll (fun _ => rfl) _
    rw [emails]
    exact numbered.emails

/-- Every account is found under its own address, and no other. -/
theorem find?_eq_some_iff (numbered : table.IsNumbered) {email : String} {user : User} :
    table.find? email = some user ↔ user ∈ table.users ∧ user.email = email := by
  constructor
  · intro found
    exact ⟨List.mem_of_find?_eq_some found, by simpa using List.find?_some found⟩
  · rintro ⟨member, rfl⟩
    cases found : table.find? user.email with
    | none => simpa using List.find?_eq_none.mp found user member
    | some other =>
        have same : other.email = user.email := by simpa using List.find?_some found
        rw [List.inj_on_of_nodup_map numbered.emails (List.mem_of_find?_eq_some found) member same]

/-! ## Numbers that 64 bits can hold -/

variable (numbered : table.IsNumbered) (few : table.size < 2 ^ 63)

include numbered few

theorem toInt_lastId : table.lastId.toInt = table.size := by
  rw [numbered.lastId, Int64.toInt_ofNat_of_lt few]

theorem toInt_ids :
    (table.users.map User.id).map Int64.toInt =
      (List.range table.size).map fun index : Nat => (index : Int) + 1 := by
  rw [numbered.ids, List.map_map]
  apply List.map_congr_left
  intro index member
  have below := List.mem_range.mp member
  rw [Function.comp_apply, Int64.toInt_ofNat_of_lt (by omega)]
  omega

theorem exists_toInt_id_iff {number : Int} :
    (∃ user ∈ table.users, user.id.toInt = number) ↔ 1 ≤ number ∧ number ≤ table.size := by
  have member : (∃ user ∈ table.users, user.id.toInt = number) ↔
      number ∈ (table.users.map User.id).map Int64.toInt := by simp
  rw [member, numbered.toInt_ids few, List.mem_map]
  constructor
  · rintro ⟨index, inside, rfl⟩
    have below := List.mem_range.mp inside
    omega
  · rintro ⟨low, high⟩
    exact ⟨(number - 1).toNat, List.mem_range.mpr (by omega), by omega⟩

theorem distinct_ids : (table.users.map User.id).Nodup := by
  apply List.Nodup.of_map Int64.toInt
  rw [numbered.toInt_ids few]
  exact List.nodup_range.map fun first second same => by omega

theorem exists_id_iff {id : UserId} :
    (∃ user ∈ table.users, user.id = id) ↔ 1 ≤ id.toInt ∧ id.toInt ≤ table.size := by
  simp only [← numbered.exists_toInt_id_iff few, Int64.toInt_inj]

end IsNumbered

end UserTable

end SessionGate
