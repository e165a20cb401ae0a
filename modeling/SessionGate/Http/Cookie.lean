import SessionGate.Gate
import SessionGate.Http.Message
import SessionGate.Text.Blank

/-!
# The session cookie

A session travels in a cookie. The carrier of a request is the first cookie of the right name in
its Cookie headers, of which those with bytes that are not plain text are passed over. A cookie
of a request never says when it ends.
-/

namespace SessionGate.Http.Cookie

open Time

def name : String := "session_token"

/-- Whether a byte is plain text: a tab, or a visible ASCII character or space. -/
def isPlain (byte : UInt8) : Bool :=
  byte == 0x09 || (0x20 ≤ byte && byte ≤ 0x7e)

/-- Whether a byte may stand in a header that is sent. -/
def isSendable (byte : UInt8) : Bool :=
  byte == 0x09 || (0x20 ≤ byte && byte != 0x7f)

/-- Without spaces and tabs at either end. -/
def trim (octets : Octets) : Octets :=
  Text.trimList (fun byte => byte == 0x20 || byte == 0x09) octets

/-- The cookies of a header value, divided by semicolons. -/
def parts (value : Octets) : List Octets :=
  value.splitOn 0x3b

/-- The name and value of a cookie, divided by the first equals sign. -/
def pair? (part : Octets) : Option (Octets × Octets) :=
  match part.dropWhile (· != 0x3d) with
  | [] => none
  | _ :: value => some (trim (part.takeWhile (· != 0x3d)), trim value)

/-- The token of a cookie, if it has the right name. -/
def token? (part : Octets) : Option String :=
  match pair? part with
  | some (key, value) =>
      if key = Octets.ofText name then some (String.ofList (value.map Char.ofUInt8)) else none
  | none => none

/-- All cookies of the headers, in order. -/
def allParts (headers : List Header) : List Octets :=
  ((valuesOf "cookie" headers).filter fun value => value.all isPlain).flatMap parts

def carrier? (headers : List Header) : Option Carrier :=
  ((allParts headers).findSome? token?).map fun token => ⟨token, none⟩

/-- The header that makes a client keep a token until an instant. -/
def header (token : String) (expires : Instant) : Except AuthError Octets :=
  let octets := Octets.ofText
    (name ++ "=" ++ token ++ "; Path=/; HttpOnly; Expires=" ++ expires.cookieStamp)
  if octets.all isSendable then .ok octets else .error (.internal .cookieBytes)

/-- The header for a new session. -/
def issue (session : Session) : Except AuthError Octets :=
  header session.token session.expiresAt

/-- The header that ends a session at the client. -/
def clear (now : Instant) : Except AuthError Octets :=
  header "" now

end SessionGate.Http.Cookie
