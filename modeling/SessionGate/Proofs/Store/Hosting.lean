import Mathlib.Logic.Relation
import SessionGate.Proofs.Runs.Accounts
import SessionGate.Proofs.World.Conversation

/-!
# Conversations with the table of accounts

A table of accounts hosts a conversation when it answers the turns that are addressed to it. Between
two turns others may insert accounts and change roles as they like. An account that is there is
found all the same, with nothing but its role open to change.
-/

namespace SessionGate

/-- Whether the question goes to the store of accounts. -/
def Question.isOnAccounts : Question → Bool
  | .findUser _ | .emailTaken _ | .insertUser _ => true
  | _ => false

namespace UserTable

variable {faulty : Prop} {table before next after : UserTable} {email : String} {user : User}
  {turn : Turn} {turns rest : List Turn}

/-- How a table takes a turn, and what becomes of it. A faulty store may fail for a reason of its
own and leave the table as it is; what is not addressed to the table leaves it alone. -/
inductive Replies (faulty : Prop) (table : UserTable) : Turn → UserTable → Prop where
  | found {email : String} {user : User} (found : table.find? email = some user) :
      Replies faulty table ⟨.findUser email, .ok user⟩ table
  | missed {email : String} (missing : table.find? email = none) :
      Replies faulty table ⟨.findUser email, .error .notFound⟩ table
  | told (email : String) :
      Replies faulty table ⟨.emailTaken email, .ok (table.contains email)⟩ table
  | inserted {row : UserRow} {id : UserId} {after : UserTable}
      (inserted : table.insert row = .ok (id, after)) :
      Replies faulty table ⟨.insertUser row, .ok id⟩ after
  | refused {row : UserRow} {error : AuthError} (refused : table.insert row = .error error) :
      Replies faulty table ⟨.insertUser row, .error error⟩ table
  | failed {turn : Turn} {fault : Fault} (isFaulty : faulty)
      (addressed : turn.1.isOnAccounts = true) (failed : turn.failure? = some (.internal fault)) :
      Replies faulty table turn table
  | elsewhere {turn : Turn} (elsewhere : turn.1.isOnAccounts = false) :
      Replies faulty table turn table

/-- What others may make of a table in any number of steps. -/
def Grows : UserTable → UserTable → Prop :=
  Relation.ReflTransGen fun before after => ∃ granted, before.Becomes granted after

/-- A table hosts a conversation, with the steps of others before, between and after its turns. -/
inductive Hosts (faulty : Prop) : UserTable → List Turn → UserTable → Prop where
  | nil {table after : UserTable} (grows : table.Grows after) : Hosts faulty table [] after
  | cons {table before next after : UserTable} {turn : Turn} {turns : List Turn}
      (grows : table.Grows before) (replies : before.Replies faulty turn next)
      (later : Hosts faulty next turns after) : Hosts faulty table (turn :: turns) after

/-! ## An account stays -/

/-- The account is found under the address, perhaps with another role. -/
def Knows (table : UserTable) (email : String) (user : User) : Prop :=
  ∃ role, table.find? email = some (user.withRole role)

theorem find?_changeAll (id : UserId) (role : Role) (users : List User) (email : String) :
    (changeAll id role users).find? (·.email == email) =
      (users.find? (·.email == email)).map fun user =>
        if user.id = id then user.withRole role else user := by
  rw [changeAll, List.find?_map]
  have blind : ((fun user : User => user.email == email) ∘
      fun user => if user.id = id then user.withRole role else user) =
      fun user => user.email == email := by
    funext user
    rw [Function.comp_apply]
    split <;> rfl
  rw [blind]

theorem Becomes.knows {granted : Option UserId} (becomes : table.Becomes granted after)
    (known : table.Knows email user) : after.Knows email user := by
  obtain ⟨role, found⟩ := known
  cases becomes with
  | @inserted row id after inserted =>
      -- A row is inserted under an address that nobody has yet.
      obtain ⟨-, -, free, -, -⟩ := insert_eq_ok_iff.mp inserted
      have different : email ≠ row.email := by
        rintro rfl
        cases free.symm.trans found
      exact ⟨role, by rw [find?_insert inserted, if_neg different, found]⟩
  | @changed id role' after changed =>
      obtain ⟨-, rfl⟩ := setRole_eq_ok_iff.mp changed
      have changedFind : find? ⟨table.lastId, changeAll id role' table.users⟩ email =
          (table.find? email).map fun user => if user.id = id then user.withRole role' else user :=
        find?_changeAll id role' table.users email
      rw [Knows, changedFind, found, Option.map_some]
      split
      · exact ⟨role', rfl⟩
      · exact ⟨role, rfl⟩
  | same => exact ⟨role, found⟩

theorem Grows.knows (grows : table.Grows after) (known : table.Knows email user) :
    after.Knows email user := by
  induction grows with
  | refl => exact known
  | tail _ step ih =>
      obtain ⟨granted, becomes⟩ := step
      exact becomes.knows ih

theorem Grows.isNumbered (grows : table.Grows after) (numbered : table.IsNumbered) :
    after.IsNumbered := by
  induction grows with
  | refl => exact numbered
  | tail _ step ih =>
      obtain ⟨granted, becomes⟩ := step
      exact becomes.isNumbered ih

/-- As long as ids have not run out, nobody has the id that stands for nobody. -/
theorem IsNumbered.ne_zero_of_knows (numbered : table.IsNumbered) (few : table.size < 2 ^ 63)
    (known : table.Knows email user) : user.id ≠ 0 := by
  obtain ⟨role, found⟩ := known
  obtain ⟨low, -⟩ := (numbered.exists_id_iff few).mp
    ⟨_, List.mem_of_find?_eq_some found, rfl⟩
  rintro zero
  change 1 ≤ user.id.toInt at low
  rw [zero] at low
  exact absurd low (by decide)

/-! ## What a table makes of a conversation -/

theorem Replies.eq_of_found (replies : table.Replies faulty ⟨.findUser email, .ok user⟩ next) :
    table.find? email = some user := by
  cases replies with
  | found found => exact found
  | failed _ _ failed => cases failed
  | elsewhere elsewhere => cases elsewhere

/-- A turn that does not insert an account leaves the table as it is. -/
theorem Replies.eq_of_not_inserted (replies : table.Replies faulty turn next)
    (uninserted : ∀ row id, turn ≠ ⟨.insertUser row, .ok id⟩) : next = table := by
  cases replies with
  | inserted inserted => exact absurd rfl (uninserted _ _)
  | _ => rfl

/-- A table that takes a turn inserts an account at most. -/
theorem Replies.becomes (replies : table.Replies faulty turn after) :
    ∃ granted, table.Becomes granted after := by
  cases replies with
  | inserted inserted => exact ⟨_, .inserted inserted⟩
  | _ => exact ⟨none, .same⟩

/-- A turn leaves all accounts as they are, or appends the one that it inserts. -/
theorem Replies.users_eq (replies : table.Replies faulty turn next) :
    next.users = table.users ∨ ∃ row id, turn = ⟨.insertUser row, .ok id⟩ ∧
      next.users = table.users ++ [row.withId id] := by
  cases replies with
  | inserted inserted =>
      obtain ⟨-, -, -, -, rfl⟩ := insert_eq_ok_iff.mp inserted
      exact .inr ⟨_, _, rfl, rfl⟩
  | _ => exact .inl rfl

theorem Replies.mem_of_inserted {row : UserRow} {id : UserId}
    (replies : table.Replies faulty ⟨.insertUser row, .ok id⟩ next) :
    row.withId id ∈ next.users := by
  cases replies with
  | inserted inserted =>
      obtain ⟨-, -, -, -, rfl⟩ := insert_eq_ok_iff.mp inserted
      exact List.mem_append_right _ List.mem_cons_self
  | failed _ _ failed => cases failed
  | elsewhere elsewhere => cases elsewhere

theorem Replies.subset (replies : table.Replies faulty turn next) : table.users ⊆ next.users := by
  rcases replies.users_eq with same | ⟨row, id, -, appended⟩
  · rw [same]
    exact List.Subset.refl _
  · rw [appended]
    exact List.subset_append_left _ _

theorem Hosts.grows (hosts : table.Hosts faulty turns after) : table.Grows after := by
  induction hosts with
  | nil grows => exact grows
  | cons grows replies _ ih => exact (grows.tail replies.becomes).trans ih

theorem Hosts.of_elsewhere (elsewhere : ∀ turn ∈ turns, turn.1.isOnAccounts = false) :
    table.Hosts faulty turns table := by
  induction turns with
  | nil => exact .nil .refl
  | cons turn turns ih =>
      exact .cons .refl (.elsewhere (elsewhere turn List.mem_cons_self))
        (ih fun later member => elsewhere later (List.mem_cons_of_mem _ member))

theorem Hosts.split (hosts : table.Hosts faulty (turns ++ rest) after) :
    ∃ middle, table.Hosts faulty turns middle ∧ middle.Hosts faulty rest after := by
  induction turns generalizing table with
  | nil => exact ⟨table, .nil .refl, hosts⟩
  | cons turn turns ih =>
      cases hosts with
      | cons grows replies later =>
          obtain ⟨middle, first, second⟩ := ih later
          exact ⟨middle, .cons grows replies first, second⟩

/-- Whoever looks for an account that is there finds it, unless the store is faulty and fails. -/
theorem Hosts.answer_of_knows {answer : Except AuthError User}
    (hosts : table.Hosts faulty (⟨.findUser email, answer⟩ :: rest) after)
    (known : table.Knows email user) :
    (∃ role, answer = .ok (user.withRole role)) ∨
      faulty ∧ ∃ fault, answer = .error (.internal fault) := by
  cases hosts with
  | cons grows replies later =>
      obtain ⟨role, present⟩ := grows.knows known
      cases replies with
      | found found =>
          exact .inl ⟨role, congrArg Except.ok (Option.some.inj (found.symm.trans present))⟩
      | missed missing => cases missing.symm.trans present
      | failed isFaulty addressed failed =>
          cases answer with
          | ok other => cases failed
          | error error => exact .inr ⟨isFaulty, _, congrArg Except.error (Option.some.inj failed)⟩
      | elsewhere elsewhere => cases elsewhere

end UserTable

end SessionGate
