import SessionGate.Accounts
import SessionGate.Errors

/-!
# The table of accounts

Accounts are kept in the order of their insertion. An email address has at most one account, and
ids are given in order from one; a refused insertion uses up no id.
-/

namespace SessionGate

/-- The accounts, and the last id that was given. -/
structure UserTable where
  lastId : UserId
  users : List User
  deriving DecidableEq

namespace UserTable

def empty : UserTable := ⟨0, []⟩

/-- The account of an email address. -/
def find? (table : UserTable) (email : String) : Option User :=
  table.users.find? (·.email == email)

def contains (table : UserTable) (email : String) : Bool :=
  table.users.any (·.email == email)

def size (table : UserTable) : Nat :=
  table.users.length

/-- Insert an account under the next id. An account needs an email address and a password
record, and the address must be free. -/
def insert (table : UserTable) (row : UserRow) : Except AuthError (UserId × UserTable) :=
  if row.email.isEmpty || row.password.octets.isEmpty then
    .error (.badRequest .incompleteRow)
  else if table.contains row.email then
    .error .alreadyExists
  else
    let id := table.lastId + 1
    .ok (id, ⟨id, table.users ++ [⟨id, row.email, row.name, row.password, row.role⟩]⟩)

/-- Give the account with an id another role. Sessions keep the role that they were opened
with. -/
def setRole (table : UserTable) (id : UserId) (role : Role) : Except AuthError UserTable :=
  if table.users.any (·.id == id) then
    .ok { table with
      users := table.users.map fun user => if user.id = id then { user with role } else user }
  else .error .notFound

end UserTable

end SessionGate
