import SessionGate.Octets

/-!
# Ill-formed UTF-8

The first fault of a byte sequence is the first byte that does not begin a complete, well-formed
character.
-/

namespace SessionGate.Text.Utf8

/-- Whether a byte may follow the first byte of a character. -/
def isTail (byte : UInt8) : Bool :=
  0x80 ≤ byte && byte ≤ 0xbf

/-- Whether two bytes may begin a character of three. -/
def opensThree (first next : UInt8) : Bool :=
  (first == 0xe0 && 0xa0 ≤ next && next ≤ 0xbf) || (first == 0xed && 0x80 ≤ next && next ≤ 0x9f) ||
    (0xe1 ≤ first && first ≤ 0xef && first != 0xed && isTail next)

/-- Whether two bytes may begin a character of four. -/
def opensFour (first next : UInt8) : Bool :=
  (first == 0xf0 && 0x90 ≤ next && next ≤ 0xbf) || (first == 0xf4 && 0x80 ≤ next && next ≤ 0x8f) ||
    (0xf1 ≤ first && first ≤ 0xf3 && isTail next)

/-- What is left from the first fault on; nothing when all is well formed. -/
def firstFault : Octets → Octets
  | [] => []
  | a :: rest =>
      if a < 0x80 then firstFault rest
      else match rest with
        | [] => [a]
        | b :: rest₁ =>
            if 0xc2 ≤ a && a ≤ 0xdf && isTail b then firstFault rest₁
            else match rest₁ with
              | [] => [a, b]
              | c :: rest₂ =>
                  if opensThree a b && isTail c then firstFault rest₂
                  else match rest₂ with
                    | [] => [a, b, c]
                    | d :: rest₃ =>
                        if opensFour a b && isTail c && isTail d then firstFault rest₃
                        else a :: b :: c :: d :: rest₃

end SessionGate.Text.Utf8
