import SessionGate.Decimal.Integer

/-!
# Writing JSON

Values are written without blanks. In a text only quotes, backslashes and control characters are
escaped, those with a short escape by it.
-/

namespace SessionGate.Json

/-- A character as it stands in a written text. -/
def writeCharacter (character : Char) : List Char :=
  match character with
  | '"' => ['\\', '"']
  | '\\' => ['\\', '\\']
  | '\x08' => ['\\', 'b']
  | '\x0c' => ['\\', 'f']
  | '\n' => ['\\', 'n']
  | '\r' => ['\\', 'r']
  | '\t' => ['\\', 't']
  | _ =>
      let code := character.toNat
      if code < 0x20 then
        ['\\', 'u', '0', '0', Nat.digitChar (code / 16), Nat.digitChar (code % 16)]
      else [character]

def writeText (text : String) : List Char :=
  '"' :: text.toList.flatMap writeCharacter ++ ['"']

/-- The written form of an object, from names and written values. -/
def writeObject (members : List (String × List Char)) : List Char :=
  let written := members.map fun (name, value) => writeText name ++ ':' :: value
  '\x7b' :: List.intercalate [','] written ++ ['\x7d']

end SessionGate.Json
