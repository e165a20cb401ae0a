import SessionGate.Octets
import SessionGate.Text.Inspection
import SessionGate.Time.Instant

/-!
# Accounts and sessions

An account belongs to an email address and has a role. A session is one login: it keeps the
account's id and the role it had then. The text that shows a value to operators never holds a
password or key.
-/

namespace SessionGate

open Time

/-- The number a store gives to an account. Zero is never given and stands for nobody. -/
abbrev UserId := Int64

/-- What an account may do. -/
inductive Role where
  | user
  | moderator
  deriving DecidableEq, Repr

namespace Role

/-- Whether holding this role is enough where `required` is asked for. -/
def satisfies : Role → Role → Bool
  | .moderator, _ => true
  | .user, .user => true
  | .user, .moderator => false

def name : Role → String
  | .user => "user"
  | .moderator => "moderator"

def inspect : Role → String
  | .user => "User"
  | .moderator => "Moderator"

end Role

/-- A salt followed by the key derived from a password with it. -/
structure PasswordRecord where
  octets : Octets
  deriving DecidableEq, Repr

/-- The inspection text of a record: only its length. -/
def PasswordRecord.inspect (record : PasswordRecord) : String :=
  Text.showWrapped "PasswordRecord" ("<" ++ Decimal.text record.octets.length ++ " bytes>")

/-- What a login presents. -/
structure Credentials where
  email : String
  password : String
  deriving DecidableEq, Repr

/-- The inspection text of credentials, without the password. -/
def Credentials.inspect (credentials : Credentials) : String :=
  Text.showRecord "Credentials" [⟨"email", Text.quote credentials.email⟩] true

/-- What a registration presents. -/
structure NewUser where
  email : String
  password : String
  name : Option String
  deriving DecidableEq, Repr

namespace NewUser

/-- Whether a registration says nothing at all. -/
def isEmpty (user : NewUser) : Bool :=
  user.email.isEmpty && user.password.isEmpty && user.name.isNone

def credentials (user : NewUser) : Credentials :=
  ⟨user.email, user.password⟩

/-- The inspection text of a registration, without the password. -/
def inspect (user : NewUser) : String :=
  Text.showRecord "NewUser"
    [⟨"email", Text.quote user.email⟩, ⟨"name", Text.showOptional user.name⟩] true

end NewUser

/-- An account before a store has given it an id. -/
structure UserRow where
  email : String
  name : Option String
  password : PasswordRecord
  role : Role
  deriving DecidableEq, Repr

structure User where
  id : UserId
  email : String
  name : Option String
  password : PasswordRecord
  role : Role
  deriving DecidableEq, Repr

def User.inspect (user : User) : String :=
  Text.showRecord "User"
    [⟨"id", Decimal.text user.id.toInt⟩, ⟨"email", Text.quote user.email⟩,
      ⟨"name", Text.showOptional user.name⟩, ⟨"password", user.password.inspect⟩,
      ⟨"role", user.role.inspect⟩] false

/-- Who a session speaks for. -/
structure Identity where
  userId : UserId
  role : Role
  deriving DecidableEq, Repr

def Identity.inspect (identity : Identity) : String :=
  Text.showRecord "SessionContext"
    [⟨"user_id", Decimal.text identity.userId.toInt⟩, ⟨"role", identity.role.inspect⟩] false

/-- One login. Its end and its identity are fixed when it is issued. -/
structure Session where
  token : String
  expiresAt : Instant
  userId : UserId
  role : Role
  deriving DecidableEq

def Session.identity (session : Session) : Identity :=
  ⟨session.userId, session.role⟩

end SessionGate
