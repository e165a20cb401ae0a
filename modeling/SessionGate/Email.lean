/-!
# Email addresses

An address is a local part and a domain with an at sign between them. Each side is one or more
atoms joined by dots. An atom is a nonempty run of ASCII letters, digits and a few marks.
-/

namespace SessionGate.Email

def isAtomCharacter (character : Char) : Bool :=
  character.isAlphanum || "!#$%&'*+/=?^_`\x7b|\x7d~-".toList.contains character

/-- Whether a text is atoms joined by dots. -/
def isDotAtom (text : List Char) : Bool :=
  (text.splitOn '.').all fun atom => !atom.isEmpty && atom.all isAtomCharacter

def isAddress (text : String) : Bool :=
  match text.toList.splitOn '@' with
  | [localPart, domain] => isDotAtom localPart && isDotAtom domain
  | _ => false

end SessionGate.Email
