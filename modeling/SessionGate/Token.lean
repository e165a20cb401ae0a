import SessionGate.Text.Base64Url

/-!
# Session tokens

A token is 32 random bytes in characters that need no escaping in an address or a cookie. Logs
name a token by a short hint.
-/

namespace SessionGate

abbrev TokenBytes := Vector UInt8 32

namespace Token

def ofBytes (bytes : TokenBytes) : String :=
  String.ofList (Text.Base64Url.encode bytes.toList)

/-- The characters at the front of a text that take up exactly `size` bytes, if its characters
divide there. -/
def prefixOfSize? : Nat → List Char → Option (List Char)
  | 0, _ => some []
  | _ + 1, [] => none
  | size + 1, character :: rest =>
      if character.utf8Size ≤ size + 1 then
        (prefixOfSize? (size + 1 - character.utf8Size) rest).map (character :: ·)
      else none

/-- How many bytes of a token a hint shows. -/
def hintSize : Nat := 6

/-- The hint of a token: its first six bytes, or all of it where they do not end a character. -/
def hint (token : String) : String :=
  match prefixOfSize? hintSize token.toList with
  | some shown => String.ofList shown
  | none => token

end Token

end SessionGate
