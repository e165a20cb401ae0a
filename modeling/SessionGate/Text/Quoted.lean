import SessionGate.Text.Extending
import SessionGate.Text.Unprintable

/-!
# Quoted text

A quoted text stands between double quotes on one line of visible characters. Quotes,
backslashes, tabs, line ends and NUL have short escapes; any other character that is not visible
by itself is written by its code point.
-/

namespace SessionGate.Text

def inRanges (ranges : Array (Nat × Nat)) (code : Nat) : Bool :=
  ranges.any fun range => range.1 ≤ code && code ≤ range.2

/-- Whether a character stands for itself in quoted text: it has a visible form and does not
attach to the character before it. -/
def isPlain (character : Char) : Bool :=
  let code := character.toNat
  if code < 0x7f then 0x20 ≤ code
  else !(inRanges Extending.ranges code || inRanges Unprintable.ranges code)

/-- A character as it stands in quoted text. -/
def escape (character : Char) : List Char :=
  match character with
  | '\x00' => ['\\', '0']
  | '\t' => ['\\', 't']
  | '\n' => ['\\', 'n']
  | '\r' => ['\\', 'r']
  | '"' => ['\\', '"']
  | '\\' => ['\\', '\\']
  | _ =>
      if isPlain character then [character]
      else ['\\', 'u', '\x7b'] ++ Nat.toDigits 16 character.toNat ++ ['\x7d']

def quote (text : String) : String :=
  String.ofList ('"' :: text.toList.flatMap escape ++ ['"'])

end SessionGate.Text
