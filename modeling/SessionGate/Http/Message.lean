import SessionGate.Octets

/-!
# Requests and responses

A request has a method, a path, headers in order and a body. The names of headers do not
distinguish upper and lower case.
-/

namespace SessionGate.Http

/-- A header: its name, and the bytes of its value. -/
structure Header where
  name : String
  value : Octets
  deriving DecidableEq, Repr

structure Request where
  method : String
  path : String
  headers : List Header
  body : Octets
  deriving DecidableEq, Repr

/-- A response, with the headers that matter. -/
structure Response where
  status : Nat
  contentType : Option String
  setCookie : Option Octets
  allow : Option String
  body : String
  deriving DecidableEq, Repr

/-- The values of all headers of a name, in order. -/
def valuesOf (name : String) (headers : List Header) : List Octets :=
  (headers.filter fun header => header.name.toLower == name).map Header.value

namespace Response

def ofStatus (status : Nat) : Response :=
  ⟨status, none, none, none, ""⟩

def ofJson (status : Nat) (body : List Char) : Response :=
  ⟨status, some "application/json", none, none, String.ofList body⟩

def withCookie (response : Response) (cookie : Octets) : Response :=
  { response with setCookie := some cookie }

end Response

end SessionGate.Http
