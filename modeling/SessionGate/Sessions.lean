import SessionGate.Passwords
import SessionGate.Time.Stamp

/-!
# Sessions

Registration, login, logout and look-up over the two stores. An operation asks each store at
most once per kind of call, in a fixed order, and passes the first failure on unchanged.
-/

namespace SessionGate

open Time

/-- What the session rules are run with: a hasher and the length of a session. -/
structure Manager where
  hasher : Hasher
  ttl : Span
  deriving DecidableEq

namespace Manager

/-- The length of a session where none is configured. -/
def standardTtl : Span := Span.day

/-- Insert an account with a role, with no look at what is there already. -/
def provision (manager : Manager) (user : NewUser) (role : Role) : Action UserId := do
  let password ← manager.hasher.freshTextRecord user.password
  let id ← Action.insertUser ⟨user.email, user.name, password, role⟩
  Action.logService .debug "user provisioned" [("id", Decimal.text id.toInt), ("role", role.name)]
  return id

/-- Open an account for a user. Another registration may come between the look-up and the
insertion; the store then refuses the second one. -/
def register (manager : Manager) (user : NewUser) : Action UserId := do
  if user.isEmpty then
    throw (.badRequest .emptyUser)
  if ← Action.emailTaken user.email then
    Action.logService .warn "registration for existing email" [("email", user.email)]
    throw .alreadyExists
  manager.provision user .user

/-- The session that starts now, and its lifetime. -/
def openSession (manager : Manager) (user : User) (now : Instant) (token : String) :
    Except AuthError (Session × Lifetime) :=
  match now.add? manager.ttl with
  | none => .error (.internal .expiryOutOfRange)
  | some expiresAt =>
      match (expiresAt.since now).toLifetime? with
      | none => .error (.internal .negativeTtl)
      | some lifetime => .ok (⟨token, expiresAt, user.id, user.role⟩, lifetime)

/-- Open a session for credentials. -/
def login (manager : Manager) (credentials : Credentials) : Action (Session × UserId) := do
  let user ← Action.findUser credentials.email
  let isRight ← Action.perform
    (manager.hasher.verify (Octets.ofText credentials.password) user.password)
  if !isRight then
    Action.logService .warn "wrong password" [("user_id", Decimal.text user.id.toInt)]
    throw .wrongCredentials
  let now ← Action.readClock
  let token := Token.ofBytes (← Action.drawToken)
  let (session, lifetime) ← ExceptT.mk (pure (manager.openSession user now token))
  Action.putSession session.token session.identity lifetime
  Action.logService .debug "session issued"
    [("user_id", Decimal.text user.id.toInt), ("token", Token.hint session.token),
      ("expires_at", session.expiresAt.logStamp)]
  return (session, user.id)

def logout (token : String) : Action Unit := do
  if token.isEmpty then
    throw .invalidToken
  Action.deleteSession token
  Action.logService .debug "session revoked" [("token", Token.hint token)]

/-- Who a token speaks for. -/
def resolve (token : String) : Action Identity := do
  if token.isEmpty then
    throw .invalidToken
  let identity ← Action.getSession token
  Action.logService .debug "session resolved"
    [("user_id", Decimal.text identity.userId.toInt), ("role", identity.role.name)]
  return identity

end Manager

end SessionGate
