import SessionGate.Hash.Argon2id
import SessionGate.Json.Failure
import SessionGate.Text.Inspection

/-!
# Errors

Every failure of the stores, the session rules and the gate is one of a few kinds, each with its
HTTP status. A rejected request and an internal failure say why; the wording of every cause is
here.
-/

namespace SessionGate

/-- Why a key could not be derived. -/
inductive HashError where
  | passwordTooLong
  | saltTooShort
  | saltTooLong
  deriving DecidableEq, Repr

def HashError.message : HashError → String
  | .passwordTooLong => "password is too long"
  | .saltTooShort => "salt is too short"
  | .saltTooLong => "salt is too long"

/-- The wording for a length of time that its target cannot hold. -/
def lengthOutOfRange : String :=
  "Source duration value is out of range for the target type"

/-- Why the service failed through no fault of the caller. The random source, where it has nothing
to give, and a store that fails report it in words of their own. -/
inductive Fault where
  | costs (error : Hash.Argon2id.CostError)
  | saltDraw (report : String)
  | tokenDraw (report : String)
  | hashing (error : HashError)
  | expiryOutOfRange
  | negativeTtl
  | lifetimeTooLong
  | entryExpiryOutOfRange
  | undecodableEntry (error : Json.ReadError)
  | cookieBytes
  | reported (text : String)
  deriving DecidableEq, Repr

def Fault.message : Fault → String
  | .costs error => "invalid argon2 parameters: " ++ error.message
  | .saltDraw report => "salt generation failed: " ++ report
  | .tokenDraw report => "token generation failed: " ++ report
  | .hashing error => "password hashing failed: " ++ error.message
  | .expiryOutOfRange => "session expiry past the representable date range"
  | .negativeTtl => "session ttl out of range: " ++ lengthOutOfRange
  | .lifetimeTooLong => "ttl out of range: " ++ lengthOutOfRange
  | .entryExpiryOutOfRange => "ttl past the representable date range"
  | .undecodableEntry error => "decode session context: " ++ error.message
  | .cookieBytes => "invalid cookie header: failed to parse header value"
  | .reported text => text

/-- Why the body of a request could not be read. -/
inductive BodyError where
  | notJson
  | tooLarge
  | malformed (error : Json.ReadError)
  | unsuitable (error : Json.ReadError)
  deriving DecidableEq, Repr

def BodyError.message : BodyError → String
  | .notJson => "Expected request with `Content-Type: application/json`"
  | .tooLarge => "Failed to buffer the request body: length limit exceeded"
  | .malformed error => "Failed to parse the request body as JSON: " ++ error.messageWithPath
  | .unsuitable error =>
      "Failed to deserialize the JSON body into the target type: " ++ error.messageWithPath

/-- Why a request is rejected. -/
inductive Rejection where
  | emptyUser
  | incompleteRow
  | body (error : BodyError)
  | reported (text : String)
  deriving DecidableEq, Repr

def Rejection.message : Rejection → String
  | .emptyUser => "empty user"
  | .incompleteRow => "email and password are required"
  | .body error => error.message
  | .reported text => text

inductive AuthError where
  | wrongCredentials
  | unauthorized
  | invalidToken
  | badRequest (rejection : Rejection)
  | notFound
  | alreadyExists
  | forbidden
  | internal (fault : Fault)
  deriving DecidableEq, Repr

namespace AuthError

def message : AuthError → String
  | .wrongCredentials => "username or password is invalid"
  | .unauthorized => "need to authorize"
  | .invalidToken => "session token is invalid"
  | .badRequest rejection => "request is not valid: " ++ rejection.message
  | .notFound => "requested item is not found"
  | .alreadyExists => "resource already exists"
  | .forbidden => "forbidden"
  | .internal fault => "internal server error: " ++ fault.message

def name : AuthError → String
  | .wrongCredentials => "WrongCredentials"
  | .unauthorized => "Unauthorized"
  | .invalidToken => "InvalidToken"
  | .badRequest _ => "BadRequest"
  | .notFound => "NotFound"
  | .alreadyExists => "AlreadyExists"
  | .forbidden => "Forbidden"
  | .internal _ => "Internal"

def inspect (error : AuthError) : String :=
  match error with
  | .badRequest rejection => Text.showWrapped error.name (Text.quote rejection.message)
  | .internal fault => Text.showWrapped error.name (Text.quote fault.message)
  | _ => error.name

def status : AuthError → Nat
  | .wrongCredentials => 400
  | .unauthorized => 401
  | .invalidToken => 400
  | .badRequest _ => 400
  | .notFound => 404
  | .alreadyExists => 409
  | .forbidden => 403
  | .internal _ => 500

def isServerFailure (error : AuthError) : Bool :=
  500 ≤ error.status

end AuthError

end SessionGate
