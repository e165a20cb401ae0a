import SessionGate.Http.MediaType
import SessionGate.Payload

/-!
# Request bodies

A body is read as JSON when the first Content-Type header says that it is, and when it is not
longer than two mebibytes.
-/

namespace SessionGate.Http.Body

open Json

/-- The greatest number of bytes of a body that is read. -/
def sizeLimit : Nat := 2097152

def isJson (request : Request) : Bool :=
  match valuesOf "content-type" request.headers with
  | value :: _ => value.all (fun byte => byte == 0x09 || (0x20 ≤ byte && byte ≤ 0x7e)) &&
      MediaType.isJson value
  | [] => false

/-- A failure to read a body: one of its syntax, or of what it says. -/
def errorOf (error : ReadError) : BodyError :=
  match error.cause with
  | .mistake _ => .malformed error
  | .mismatch _ => .unsuitable error

def read {α : Type} (reader : Reader α) (request : Request) : Except BodyError α :=
  if !isJson request then .error .notJson
  else if sizeLimit < request.body.length then .error .tooLarge
  else (readWhole reader request.body).mapError errorOf

end SessionGate.Http.Body
