import SessionGate.Http.Message

/-!
# Media types

A media type is a type and a subtype of token characters, and parameters after semicolons. What
follows the last plus sign of a subtype is a suffix that names its syntax; a plus sign at the
beginning opens no suffix.
-/

namespace SessionGate.Http.MediaType

def isTokenCharacter (character : Char) : Bool :=
  character.isAlphanum || "!#$%&'*+-.^_`|~".toList.contains character

/-- Where the parameters of a media type are being checked: before a name, in a name, before a
value, in a value, at the start of a quoted value or further in it, or after one. -/
inductive ParameterState where
  | beforeName
  | inName
  | beforeValue
  | inValue
  | quoteOpened
  | inQuotes
  | afterQuotes
  deriving DecidableEq, Repr

/-- Whether what follows the first semicolon is a list of parameters. -/
def areParameters : ParameterState → List Char → Bool
  | .beforeName, [] | .beforeValue, [] | .inValue, [] | .afterQuotes, [] => true
  | .inName, [] | .quoteOpened, [] | .inQuotes, [] => false
  | .beforeName, character :: rest =>
      if character = ' ' then areParameters .beforeName rest
      else isTokenCharacter character && areParameters .inName rest
  | .inName, character :: rest =>
      if character = '=' then areParameters .beforeValue rest
      else isTokenCharacter character && areParameters .inName rest
  | .beforeValue, character :: rest =>
      if character = '"' then areParameters .quoteOpened rest
      else isTokenCharacter character && areParameters .inValue rest
  | .inValue, character :: rest =>
      if character = ';' then areParameters .beforeName rest
      else isTokenCharacter character && areParameters .inValue rest
  | .quoteOpened, character :: rest =>
      decide (' ' ≤ character ∧ character.toNat ≠ 0x7f) && areParameters .inQuotes rest
  | .inQuotes, character :: rest =>
      if character = '"' then areParameters .afterQuotes rest
      else decide (' ' ≤ character ∧ character.toNat ≠ 0x7f) && areParameters .inQuotes rest
  | .afterQuotes, character :: rest =>
      if character = ';' then areParameters .beforeName rest
      else decide (character = ' ') && areParameters .afterQuotes rest

/-- A subtype without its suffix, and the suffix. -/
def splitSuffix (subtype : List Char) : List Char × Option (List Char) :=
  let suffix := (subtype.reverse.takeWhile (· != '+')).reverse
  let before := subtype.length - suffix.length
  if 1 < before then (subtype.take (before - 1), some suffix) else (subtype, none)

/-- Whether a subtype is JSON, with a suffix or without, or has the JSON suffix. -/
def isJsonSubtype (subtype : List Char) : Bool :=
  let (name, suffix) := splitSuffix subtype
  name == "json".toList || suffix == some "json".toList

/-- Whether a header value is the media type of JSON or of a type written in JSON. Upper and
lower case are the same. -/
def isJson (value : Octets) : Bool :=
  let text := value.map fun byte => (Char.ofUInt8 byte).toLower
  let essence := text.takeWhile (· != ';')
  let parameters := (text.dropWhile (· != ';')).drop 1
  let kind := essence.takeWhile (· != '/')
  let subtype := (essence.dropWhile (· != '/')).drop 1
  kind == "application".toList && subtype.all isTokenCharacter && isJsonSubtype subtype &&
    areParameters .beforeName parameters

end SessionGate.Http.MediaType
