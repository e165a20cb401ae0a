import SessionGate.Email
import SessionGate.Http.Body
import SessionGate.Http.Cookie

/-!
# The entry points

Login, registration and logout, and what is shown to callers behind the gate. A success is
wrapped in `body` and a failure in `err`. Login and registration are for callers without a live
session; what they carry otherwise makes no difference.
-/

namespace SessionGate.Http

def success (value : List Char) : Response :=
  .ofJson 200 (Json.writeObject [("body", value)])

/-- The response to a failure. A failure of the server is logged. -/
def failure (error : AuthError) : Program Response := do
  if error.isServerFailure then
    Program.logService .error "request failed" [("error", error.message)]
  return .ofJson error.status (Json.writeObject [("err", Json.writeText error.message)])

def respond (action : Action Response) : Program Response := do
  match ← action.run with
  | .ok response => return response
  | .error error => failure error

/-- What makes a value out of what could be wrong. -/
def settle {α : Type} (outcome : Except AuthError α) : Action α :=
  ExceptT.mk (pure outcome)

/-- Refuse a caller with a live session. A store that fails makes the caller nobody, but leaves
a trace in the log. -/
def refuseLiveSession (headers : List Header) : Action Unit := do
  match ← Action.perform (Gate.authenticate (Cookie.carrier? headers)).run with
  | .ok identity =>
      Action.logService .warn "already authenticated"
        [("user_id", Decimal.text identity.userId.toInt)]
      throw .unauthorized
  | .error error =>
      if error.isServerFailure then
        Action.logService .warn "session lookup failed, treating caller as unauthenticated"
          [("error", error.message)]
      else
        Action.logService .debug "no live session on carrier" [("error", error.message)]

/-- Refuse credentials that no account can have. -/
def checkCredentials (email password : String) : Except AuthError Unit :=
  if email.isEmpty || password.isEmpty || !Email.isAddress email then .error .wrongCredentials
  else .ok ()

def readBody {α : Type} (reader : Json.Reader α) (request : Request) : Except AuthError α :=
  (Body.read reader request).mapError fun error => .badRequest (.body error)

/-- The response that hands out a session. -/
def sessionResponse (session : Session) (id : UserId) : Except AuthError Response :=
  (Cookie.issue session).map fun cookie =>
    (success (Json.writeObject [("id", Decimal.ofInt id.toInt)])).withCookie cookie

def login (manager : Manager) (request : Request) : Action Response := do
  refuseLiveSession request.headers
  let presented ← settle (readBody Credentials.read request)
  let credentials : Credentials := { presented with email := Text.trim presented.email }
  settle (checkCredentials credentials.email credentials.password)
  let (session, id) ← manager.login credentials
  Action.logService .info "login" [("user_id", Decimal.text id.toInt)]
  settle (sessionResponse session id)

/-- Open an account, and log in. -/
def register (manager : Manager) (request : Request) : Action Response := do
  refuseLiveSession request.headers
  let presented ← settle (readBody NewUser.read request)
  let user : NewUser := { presented with email := Text.trim presented.email }
  settle (checkCredentials user.email user.password)
  let id ← manager.register user
  let (session, _) ← manager.login user.credentials
  Action.logService .info "registered" [("user_id", Decimal.text id.toInt)]
  settle (sessionResponse session id)

def logout (request : Request) : Action Response := do
  match Cookie.carrier? request.headers with
  | none => throw .unauthorized
  | some carrier =>
      let identity ← Gate.authenticate (some carrier)
      Manager.logout carrier.token
      Action.logService .info "logout" [("user_id", Decimal.text identity.userId.toInt)]
      let now ← Action.readClock
      let cookie ← settle (Cookie.clear now)
      return (Response.ofStatus 204).withCookie cookie

/-- Show that the service is there. -/
def check : Action Response :=
  return Response.ofStatus 204

/-- Show the caller's identity. -/
def currentSession (identity : Identity) : Action Response :=
  return success (Json.writeObject
    [("id", Decimal.ofInt identity.userId.toInt), ("role", identity.role.write)])

/-- Show whether the caller is a moderator. -/
def moderation (identity : Identity) : Action Response := do
  Gate.requireRole identity .moderator
  return Response.ofStatus 204

end SessionGate.Http
