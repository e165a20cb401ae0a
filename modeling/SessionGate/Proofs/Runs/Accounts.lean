import SessionGate.Proofs.Runs.Act
import SessionGate.Proofs.Store.Numbering

/-!
# Accounts in runs

Whatever an act on accounts does, it inserts one account, changes roles or leaves the table as it
is. So in a run accounts are numbered from one, in the order in which they were granted, and an
account that is there stays, with nothing but its role open to change.
-/

namespace SessionGate

/-- The act inserts an account, by itself or through a call, or changes a role. -/
def Act.IsOnAccounts : Act → Prop
  | .insertUser _ | .setRole _ _ | .made (.register _ _) | .made (.provision _ _ _) => True
  | _ => False

/-- The id that was granted, if an account was inserted. -/
def Exchange.granted? : Exchange → Option UserId
  | ⟨.insertUser _, outcome⟩ => outcome.toOption
  | ⟨.made (.register _ _), outcome⟩ => outcome.toOption
  | ⟨.made (.provision _ _ _), outcome⟩ => outcome.toOption
  | _ => none

/-- How a table of accounts takes a request for an account, and what becomes of it. -/
inductive UserTable.Admits (table : UserTable) : Except AuthError UserId → UserTable → Prop where
  | inserted {row : UserRow} {id : UserId} {after : UserTable}
      (inserted : table.insert row = .ok (id, after)) : table.Admits (.ok id) after
  | refused {error : AuthError} : table.Admits (.error error) table

/-- What becomes of a table of accounts in one act, with the id that was granted. -/
inductive UserTable.Becomes (table : UserTable) : Option UserId → UserTable → Prop where
  | inserted {row : UserRow} {id : UserId} {after : UserTable}
      (inserted : table.insert row = .ok (id, after)) : table.Becomes (some id) after
  | changed {id : UserId} {role : Role} {after : UserTable}
      (changed : table.setRole id role = .ok after) : table.Becomes none after
  | same : table.Becomes none table

namespace UserTable.Admits

variable {table after : UserTable}

theorem becomes {outcome : Except AuthError UserId} (admits : table.Admits outcome after) :
    table.Becomes outcome.toOption after := by
  cases admits with
  | inserted inserted => exact .inserted inserted
  | refused => exact .same

theorem eq_of_error {error : AuthError} (admits : table.Admits (.error error) after) :
    after = table := by
  cases admits
  rfl

end UserTable.Admits

namespace UserTable.Becomes

variable {table after : UserTable} {granted : Option UserId}

theorem ids (becomes : table.Becomes granted after) :
    after.users.map User.id = table.users.map User.id ++ granted.toList := by
  cases becomes with
  | inserted inserted => exact ids_insert inserted
  | changed changed => simpa using ids_setRole changed
  | same => simp

theorem isNumbered (becomes : table.Becomes granted after) (numbered : table.IsNumbered) :
    after.IsNumbered := by
  cases becomes with
  | inserted inserted => exact (numbered.insert inserted).2
  | changed changed => exact numbered.setRole changed
  | same => exact numbered

/-- An account that is there stays, but for its role. -/
theorem exists_mem (becomes : table.Becomes granted after) {user : User}
    (member : user ∈ table.users) : ∃ role, user.withRole role ∈ after.users := by
  cases becomes with
  | inserted inserted =>
      obtain ⟨-, -, -, -, rfl⟩ := insert_eq_ok_iff.mp inserted
      exact ⟨user.role, List.mem_append_left _ member⟩
  | @changed id role after changed =>
      obtain ⟨-, rfl⟩ := setRole_eq_ok_iff.mp changed
      have stored : (if user.id = id then user.withRole role else user) ∈
          changeAll id role table.users := List.mem_map_of_mem member
      split at stored
      · exact ⟨role, stored⟩
      · exact ⟨user.role, stored⟩
  | same => exact ⟨user.role, member⟩

end UserTable.Becomes

/-! ## Acts -/

namespace Core

variable {core : Core}

theorem admits_provision (sound : core.userStore = .sound) (manager : Manager) (user : NewUser)
    (role : Role) :
    core.users.Admits (core.attempt (manager.provision user role)).1
      (core.attempt (manager.provision user role)).2.users := by
  rw [attempt_provision sound]
  cases manager.hasher.record (Octets.ofText user.password)
      (core.random.salts core.random.saltsGiven).toList with
  | error error => exact .refused
  | ok record =>
      dsimp only
      cases inserted : core.users.insert ⟨user.email, user.name, record, role⟩ with
      | error error => exact .refused
      | ok pair => exact .inserted inserted

theorem admits_register (sound : core.userStore = .sound) (manager : Manager) (user : NewUser) :
    core.users.Admits (core.attempt (manager.register user)).1
      (core.attempt (manager.register user)).2.users := by
  rw [attempt_register sound]
  split
  · exact .refused
  · split
    · exact .refused
    · exact admits_provision sound manager user .user

end Core

namespace World

variable {world : World}

theorem admits_provision (sound : world.userStore = .sound) (manager : Manager) (user : NewUser)
    (role : Role) :
    world.users.Admits (world.attempt (manager.provision user role)).1
      (world.attempt (manager.provision user role)).2.users := by
  have coreSound : world.core.userStore = .sound := sound
  have admits := Core.admits_provision coreSound manager user role
  rwa [attempt_core] at admits

theorem admits_register (sound : world.userStore = .sound) (manager : Manager) (user : NewUser) :
    world.users.Admits (world.attempt (manager.register user)).1
      (world.attempt (manager.register user)).2.users := by
  have coreSound : world.core.userStore = .sound := sound
  have admits := Core.admits_register coreSound manager user
  rwa [attempt_core] at admits

theorem admits_insertUser (row : UserRow) (world : World) :
    world.users.Admits (world.insertUser row).1 (world.insertUser row).2.users := by
  rw [insertUser]
  cases inserted : world.users.insert row with
  | error error => exact .refused
  | ok pair => exact .inserted inserted

theorem becomes_setRole (id : UserId) (role : Role) (world : World) :
    world.users.Becomes none (world.setRole id role).2.users := by
  rw [setRole]
  cases changed : world.users.setRole id role with
  | error error => exact .same
  | ok after => exact .changed changed

theorem becomes_perform {act : Act} (onAccounts : act.IsOnAccounts)
    (sound : world.userStore = .sound) :
    world.users.Becomes (Exchange.granted? ⟨act, (act.perform world).1⟩)
      (act.perform world).2.users := by
  cases act with
  | insertUser row => exact (admits_insertUser row world).becomes
  | setRole id role => exact becomes_setRole id role world
  | made call =>
      cases call with
      | register manager user => exact (admits_register sound manager user).becomes
      | provision manager user role => exact (admits_provision sound manager user role).becomes
      | _ => exact onAccounts.elim
  | _ => exact onAccounts.elim

theorem userStore_perform (act : Act) (world : World) :
    (act.perform world).2.userStore = world.userStore :=
  (precedes_perform act world).userStore

/-! ## Runs -/

/-- The ids of a table are those it had before the run and those granted in it. -/
theorem ids_enact {world : World} (sound : world.userStore = .sound) {acts : List Act}
    (onAccounts : ∀ act ∈ acts, act.IsOnAccounts) :
    (world.enact acts).users.users.map User.id =
      world.users.users.map User.id ++ (world.exchanges acts).filterMap Exchange.granted? := by
  induction acts generalizing world with
  | nil => simp
  | cons act acts ih =>
      have becomes := becomes_perform (onAccounts act List.mem_cons_self) sound
      have later := ih ((userStore_perform act world).trans sound) fun other member =>
        onAccounts other (List.mem_cons_of_mem _ member)
      rw [enact_cons, exchanges_cons, later, becomes.ids, List.append_assoc]
      cases granted : Exchange.granted? ⟨act, (act.perform world).1⟩ with
      | none => rw [List.filterMap_cons_none granted, Option.toList_none, List.nil_append]
      | some id => rw [List.filterMap_cons_some granted, Option.toList_some, List.singleton_append]

/-- An account stays, with nothing but its role open to change. -/
theorem exists_mem_enact {world : World} (sound : world.userStore = .sound) {acts : List Act}
    (onAccounts : ∀ act ∈ acts, act.IsOnAccounts) {user : User}
    (member : user ∈ world.users.users) :
    ∃ role, user.withRole role ∈ (world.enact acts).users.users := by
  induction acts generalizing world user with
  | nil => exact ⟨user.role, member⟩
  | cons act acts ih =>
      have becomes := becomes_perform (onAccounts act List.mem_cons_self) sound
      obtain ⟨role, stays⟩ := becomes.exists_mem member
      obtain ⟨last, final⟩ := ih ((userStore_perform act world).trans sound)
        (fun other inside => onAccounts other (List.mem_cons_of_mem _ inside)) stays
      exact ⟨last, final⟩

theorem isNumbered_enact (now : Time.Instant) (salts : Nat → Salt) (tokens : Nat → TokenBytes)
    {acts : List Act} (onAccounts : ∀ act ∈ acts, act.IsOnAccounts) :
    ((start now salts tokens).enact acts).userStore = .sound ∧
      ((start now salts tokens).enact acts).users.IsNumbered := by
  refine enact_induction (fun world => world.userStore = .sound ∧ world.users.IsNumbered)
    (fun act world onAccounts invariant => ?_) ⟨rfl, .empty⟩ onAccounts
  exact ⟨(userStore_perform act world).trans invariant.1,
    (becomes_perform onAccounts invariant.1).isNumbered invariant.2⟩

/-! ## Refusals -/

theorem exists_insertUser_error_iff (row : UserRow) (world : World) :
    (∃ error, (world.insertUser row).1 = .error error) ↔
      row.email.isEmpty = true ∨ row.password.octets.isEmpty = true ∨
        (world.users.find? row.email).isSome = true := by
  rw [insertUser]
  cases email : row.email.isEmpty with
  | true => simp [UserTable.insert, email]
  | false =>
      cases record : row.password.octets.isEmpty with
      | true => simp [UserTable.insert, record]
      | false =>
          rw [UserTable.insert_of_complete email record, UserTable.contains_eq_isSome]
          cases world.users.find? row.email <;> simp

theorem insertUser_of_error {row : UserRow} {error : AuthError} {world : World}
    (refused : (world.insertUser row).1 = .error error) : (world.insertUser row).2 = world := by
  rw [insertUser] at refused ⊢
  cases inserted : world.users.insert row with
  | error error => rfl
  | ok pair =>
      rw [inserted] at refused
      cases refused

theorem setRole_of_error {id : UserId} {role : Role} {error : AuthError} {world : World}
    (refused : (world.setRole id role).1 = .error error) : (world.setRole id role).2 = world := by
  rw [setRole] at refused ⊢
  cases changed : world.users.setRole id role with
  | error error => rfl
  | ok after =>
      rw [changed] at refused
      cases refused

/-! ## What a run leaves -/

/-- The accounts have the numbers from one to as many as there are, in the order in which they were
granted. Where the numbers settle who is meant, the order in which accounts are gone through does
not matter. -/
structure NumbersAccounts (world : World) (granted : List UserId) : Prop where
  lastId : world.users.lastId.toInt = world.users.size
  ids : ∀ number : Int, (∃ user ∈ world.users.users, user.id.toInt = number) ↔
    1 ≤ number ∧ number ≤ world.users.size
  distinct : (world.users.users.map User.id).Nodup
  granted : granted.map Int64.toInt =
    (List.range world.users.size).map fun index : Nat => (index : Int) + 1
  roleChanges : ∀ id role, (world.setRole id role).1 = .ok () ↔
    1 ≤ id.toInt ∧ id.toInt ≤ world.users.size
  /-- A change of a role changes the one account that is meant, and nothing else. -/
  changesOne : ∀ id role, (world.setRole id role).1 = .ok () → ∃ front user back,
    world.users.users = front ++ user :: back ∧ user.id = id ∧
      (world.setRole id role).2 =
        { world with users := ⟨world.users.lastId, front ++ user.withRole role :: back⟩ }
  anyOrder : ∀ id role, ∀ order : List User, order.Perm world.users.users →
    match changeFirst id role order with
    | none => (world.setRole id role).1 = .error .notFound
    | some changed => (world.setRole id role).1 = .ok () ∧
        changed.Perm (world.setRole id role).2.users.users

/-- Accounts are kept under their addresses, numbered while 64 bits can hold the numbers, and what
is refused leaves no trace among them. -/
structure KeepsAccounts (world : World) (granted : List UserId) : Prop where
  own : ∀ email user, world.users.find? email = some user ↔
    user ∈ world.users.users ∧ user.email = email
  emails : (world.users.users.map User.email).Nodup
  numbered : world.users.size < 2 ^ 63 → world.NumbersAccounts granted
  refusedRows : ∀ row, (∃ error, (world.insertUser row).1 = .error error) ↔
    row.email.isEmpty = true ∨ row.password.octets.isEmpty = true ∨
      ∃ user ∈ world.users.users, user.email = row.email
  refusedInsertion : ∀ row error, (world.insertUser row).1 = .error error →
    (world.insertUser row).2 = world
  refusedChange : ∀ id role error, (world.setRole id role).1 = .error error →
    (world.setRole id role).2 = world
  refusedProvision : ∀ (manager : Manager) user role error,
    (world.attempt (manager.provision user role)).1 = .error error →
      (world.attempt (manager.provision user role)).2.users = world.users
  refusedRegistration : ∀ (manager : Manager) user error,
    (world.attempt (manager.register user)).1 = .error error →
      (world.attempt (manager.register user)).2.users = world.users

section RoleChanges

variable {id : UserId} {role : Role}

theorem setRole_of_mem (present : ∃ user ∈ world.users.users, user.id = id) :
    world.setRole id role =
      (.ok (),
        { world with users := ⟨world.users.lastId, changeAll id role world.users.users⟩ }) := by
  rw [setRole, UserTable.setRole_eq, if_pos present]

theorem setRole_of_not_mem (missing : ¬ ∃ user ∈ world.users.users, user.id = id) :
    world.setRole id role = (.error .notFound, world) := by
  rw [setRole, UserTable.setRole_eq, if_neg missing]

theorem setRole_eq_ok_iff :
    (world.setRole id role).1 = .ok () ↔ ∃ user ∈ world.users.users, user.id = id := by
  by_cases present : ∃ user ∈ world.users.users, user.id = id
  · simp only [setRole_of_mem present, present]
  · simp [setRole_of_not_mem present, present]

/-- Where ids are distinct, one account is changed in its place. -/
theorem setRole_of_distinct (distinct : (world.users.users.map User.id).Nodup)
    (changed : (world.setRole id role).1 = .ok ()) :
    ∃ front user back, world.users.users = front ++ user :: back ∧ user.id = id ∧
      (world.setRole id role).2 =
        { world with users := ⟨world.users.lastId, front ++ user.withRole role :: back⟩ } := by
  have present := setRole_eq_ok_iff.mp changed
  rw [setRole_of_mem present]
  obtain ⟨user, member, rfl⟩ := present
  obtain ⟨front, back, split⟩ := List.append_of_mem member
  rw [split] at distinct
  obtain ⟨before, behind⟩ := ne_of_distinct distinct
  refine ⟨front, user, back, split, rfl, ?_⟩
  rw [split, changeAll_append_cons before behind]

/-- Where ids are distinct, the accounts may be gone through in any order. -/
theorem changeFirst_of_perm (distinct : (world.users.users.map User.id).Nodup) {order : List User}
    (perm : order.Perm world.users.users) :
    match changeFirst id role order with
    | none => (world.setRole id role).1 = .error .notFound
    | some changed => (world.setRole id role).1 = .ok () ∧
        changed.Perm (world.setRole id role).2.users.users := by
  by_cases present : ∃ user ∈ world.users.users, user.id = id
  · rw [setRole_of_mem present]
    obtain ⟨user, member, rfl⟩ := present
    have distinctOrder : (order.map User.id).Nodup := (perm.map User.id).nodup_iff.mpr distinct
    rw [changeFirst_of_distinct distinctOrder (perm.mem_iff.mpr member)]
    exact ⟨rfl, perm.map _⟩
  · have missing : changeFirst id role order = none := by
      rw [changeFirst_eq_none_iff]
      exact fun user member same => present ⟨user, perm.mem_iff.mp member, same⟩
    rw [missing, setRole_of_not_mem present]

end RoleChanges

theorem numbersAccounts {granted : List UserId} (numbered : world.users.IsNumbered)
    (few : world.users.size < 2 ^ 63) (ids : granted = world.users.users.map User.id) :
    world.NumbersAccounts granted where
  lastId := numbered.toInt_lastId few
  ids _ := numbered.exists_toInt_id_iff few
  distinct := numbered.distinct_ids few
  granted := by
    rw [ids]
    exact numbered.toInt_ids few
  roleChanges _ _ := setRole_eq_ok_iff.trans (numbered.exists_id_iff few)
  changesOne _ _ := setRole_of_distinct (numbered.distinct_ids few)
  anyOrder _ _ _ := changeFirst_of_perm (numbered.distinct_ids few)

theorem keepsAccounts {granted : List UserId} (sound : world.userStore = .sound)
    (numbered : world.users.IsNumbered) (ids : granted = world.users.users.map User.id) :
    world.KeepsAccounts granted where
  own _ _ := numbered.find?_eq_some_iff
  emails := numbered.emails
  numbered few := numbersAccounts numbered few ids
  refusedRows row := by
    rw [exists_insertUser_error_iff, Option.isSome_iff_exists]
    simp only [numbered.find?_eq_some_iff]
  refusedInsertion _ _ := insertUser_of_error
  refusedChange _ _ _ := setRole_of_error
  refusedProvision manager user role error refused :=
    (refused ▸ admits_provision sound manager user role).eq_of_error
  refusedRegistration manager user error refused :=
    (refused ▸ admits_register sound manager user).eq_of_error

/-- What insertions and changes of roles make of the accounts, in a run that begins without any:
every account stays under its own address and number, the numbers are those from one on in the
order in which they were granted, and only roles change. -/
theorem accounts_of_run (now : Time.Instant) (salts : Nat → Salt) (tokens : Nat → TokenBytes)
    {acts : List Act} (onAccounts : ∀ act ∈ acts, act.IsOnAccounts) :
    ((start now salts tokens).enact acts).KeepsAccounts
        (((start now salts tokens).exchanges acts).filterMap Exchange.granted?) ∧
      ∀ earlier later, acts = earlier ++ later →
        ∀ user ∈ ((start now salts tokens).enact earlier).users.users,
          ∃ role, user.withRole role ∈ ((start now salts tokens).enact acts).users.users := by
  obtain ⟨sound, numbered⟩ := isNumbered_enact now salts tokens onAccounts
  have soundAtStart : (start now salts tokens).userStore = .sound := rfl
  have ids := ids_enact soundAtStart onAccounts
  refine ⟨keepsAccounts sound numbered ids.symm, ?_⟩
  rintro earlier later rfl user member
  rw [List.forall_mem_append] at onAccounts
  have earlierSound := (isNumbered_enact now salts tokens onAccounts.1).1
  rw [enact_append]
  exact exists_mem_enact earlierSound onAccounts.2 member

/-- A refused insertion uses up no number. -/
theorem numbers_without_gaps :
    (((start .epoch (fun _ => .replicate 8 0) fun _ => .replicate 32 0).exchanges
      [.insertUser ⟨"a", none, ⟨[1]⟩, .user⟩, .insertUser ⟨"a", none, ⟨[2]⟩, .user⟩,
        .setRole 1 .moderator, .insertUser ⟨"b", none, ⟨[3]⟩, .user⟩]).filterMap
          Exchange.granted?).map Int64.toInt = [1, 2] := by
  have onAccounts : ∀ act ∈ ([.insertUser ⟨"a", none, ⟨[1]⟩, .user⟩,
      .insertUser ⟨"a", none, ⟨[2]⟩, .user⟩, .setRole 1 .moderator,
      .insertUser ⟨"b", none, ⟨[3]⟩, .user⟩] : List Act), act.IsOnAccounts := by
    simp [Act.IsOnAccounts]
  exact ((accounts_of_run _ _ _ onAccounts).1.numbered (by decide)).granted

end World

end SessionGate
