import SessionGate.Http.Message

/-!
# Request targets

A request names its target by a path, by an address with a scheme and an authority before the
path, or by an authority alone. A query and a fragment may follow the path. The path of an address
that has none is a slash, and an authority alone has no path at all.
-/

namespace SessionGate.Http.Target

def endsAuthority (character : Char) : Bool :=
  character == '/' || character == '?' || character == '#'

/-- What stands before a query or a fragment. -/
def beforeQuery (target : List Char) : List Char :=
  target.takeWhile fun character => character != '?' && character != '#'

def isSchemeCharacter (character : Char) : Bool :=
  character.isAlphanum || character == '+' || character == '-' || character == '.'

/-- What follows a scheme, a colon and two slashes, if the target begins with them. -/
def afterScheme? : List Char → Option (List Char)
  | ':' :: '/' :: '/' :: rest => some rest
  | character :: rest => if isSchemeCharacter character then afterScheme? rest else none
  | [] => none

/-- The path of an address, after its scheme. -/
def addressPath (address : List Char) : List Char :=
  match beforeQuery (address.dropWhile fun character => !endsAuthority character) with
  | [] => ['/']
  | path => path

/-- The path of a target. A star stands for the whole service and counts as a path. -/
def path (target : String) : String :=
  match target.toList with
  | '/' :: rest => String.ofList ('/' :: beforeQuery rest)
  | ['*'] => "*"
  | characters =>
      match afterScheme? characters with
      | some address => String.ofList (addressPath address)
      | none => ""

end SessionGate.Http.Target
