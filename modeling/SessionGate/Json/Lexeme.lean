import SessionGate.Decimal.Shortest
import SessionGate.Json.Failure
import SessionGate.Text.Utf8

/-!
# The parts of a JSON text

Blanks, words, texts and numbers are taken from the front of the input. A text or number that is
only passed over is held to its grammar but not to its meaning: escapes may name half a
surrogate pair, bytes need not be UTF-8, and a number may be as large as it likes.
-/

namespace SessionGate.Json

/-- A reader takes a value from the front of the input and returns what is left. -/
abbrev Reader (α : Type) := Octets → Except Failure (α × Octets)

/-- Whether a byte is a space, tab or line end. -/
def isBlank (byte : UInt8) : Bool :=
  byte == 0x20 || byte == 0x0a || byte == 0x09 || byte == 0x0d

def isDigit (byte : UInt8) : Bool :=
  0x30 ≤ byte && byte ≤ 0x39

def startsWithDigit (input : Octets) : Bool :=
  input.head?.any isDigit

def digitOf (byte : UInt8) : Nat :=
  byte.toNat - 0x30

/-- The input without the blanks at its front. -/
def skipBlanks (input : Octets) : Octets :=
  input.dropWhile isBlank

/-- Take the given letters. -/
def takeWord : List Char → Octets → Except Failure Octets
  | [], input => .ok input
  | _ :: _, [] => mistakeAt .endInValue []
  | letter :: letters, byte :: rest =>
      if Char.ofUInt8 byte = letter then takeWord letters rest
      else mistakeAt .expectedWord rest

/-! ## Texts -/

def hexDigit? (byte : UInt8) : Option Nat :=
  if isDigit byte then some (digitOf byte)
  else if 0x41 ≤ byte && byte ≤ 0x46 then some (byte.toNat - 0x37)
  else if 0x61 ≤ byte && byte ≤ 0x66 then some (byte.toNat - 0x57)
  else none

/-- The value of four hexadecimal digits, the last one first in the list. -/
def hexValue? (reversed : Octets) : Option Nat :=
  reversed.foldr
    (fun byte value => do return 16 * (← value) + (← hexDigit? byte)) (some 0)

/-- The byte that a one-letter escape stands for. -/
def shortEscape? (byte : UInt8) : Option UInt8 :=
  match Char.ofUInt8 byte with
  | '"' => some 0x22
  | '\\' => some 0x5c
  | '/' => some 0x2f
  | 'b' => some 0x08
  | 'f' => some 0x0c
  | 'n' => some 0x0a
  | 'r' => some 0x0d
  | 't' => some 0x09
  | _ => none

/-- Where a text is being read: between characters, after a backslash, in the hexadecimal digits
of an escape, or before the second escape of a surrogate pair. The first half of a pair is kept
until its second half has been read. -/
inductive TextState where
  | plain
  | escape
  | digits (leading : Option Nat) (reversed : Octets)
  | pairBackslash (leading : Nat)
  | pairLetter (leading : Nat)
  deriving DecidableEq, Repr

/-- The state and the new bytes after the fourth digit of an escape. -/
def closeEscape (leading : Option Nat) (reversed : Octets) : Except Mistake (TextState × Octets) :=
  match hexValue? reversed, leading with
  | none, _ => .error .invalidEscape
  | some unit, none =>
      if 0xdc00 ≤ unit ∧ unit ≤ 0xdfff then .error .loneSurrogate
      else if 0xd800 ≤ unit ∧ unit ≤ 0xdbff then .ok (.pairBackslash unit, [])
      else .ok (.plain, String.utf8EncodeChar (Char.ofNat unit))
  | some unit, some first =>
      if 0xdc00 ≤ unit ∧ unit ≤ 0xdfff then
        let code := 0x10000 + (first - 0xd800) * 0x400 + (unit - 0xdc00)
        .ok (.plain, String.utf8EncodeChar (Char.ofNat code))
      else .error .loneSurrogate

/-- Take the bytes of a text up to its closing quote; `reversed` holds those already taken. -/
def takeText : TextState → Octets → Octets → Except Failure (Octets × Octets)
  | _, _, [] => mistakeAt .endInText []
  | .plain, reversed, byte :: rest =>
      if byte = 0x22 then .ok (reversed.reverse, rest)
      else if byte = 0x5c then takeText .escape reversed rest
      else if byte < 0x20 then mistakeAt .controlCharacter rest
      else takeText .plain (byte :: reversed) rest
  | .escape, reversed, byte :: rest =>
      if byte = 0x75 then takeText (.digits none []) reversed rest
      else match shortEscape? byte with
        | some meant => takeText .plain (meant :: reversed) rest
        | none => mistakeAt .invalidEscape rest
  | .digits leading taken, reversed, byte :: rest =>
      if taken.length < 3 then takeText (.digits leading (byte :: taken)) reversed rest
      else match closeEscape leading (byte :: taken) with
        | .ok (state, bytes) => takeText state (bytes.reverse ++ reversed) rest
        | .error mistake => mistakeAt mistake rest
  | .pairBackslash leading, reversed, byte :: rest =>
      if byte = 0x5c then takeText (.pairLetter leading) reversed rest
      else mistakeAt .endOfEscape rest
  | .pairLetter leading, reversed, byte :: rest =>
      if byte = 0x75 then takeText (.digits (some leading) []) reversed rest
      else mistakeAt .endOfEscape rest

/-- Read a text after its opening quote. Bytes that are not UTF-8 are a mistake. It is noticed
after the closing quote, and placed as many bytes before that as the text has from its first
fault on, each escape counted by the bytes that it stands for. -/
def readText (input : Octets) : Except Failure (String × Octets) := do
  let (bytes, rest) ← takeText .plain [] input
  match Octets.toText? bytes with
  | some text => .ok (text, rest)
  | none =>
      let unread := (Text.Utf8.firstFault bytes).length + rest.length
      mistakeAt .invalidCodePoint (input.drop (input.length - unread))

/-- Where a text is being passed over: between characters, after a backslash, or before a number
of escape digits. -/
inductive SkipState where
  | plain
  | escape
  | digits (reversed : Octets)
  deriving DecidableEq, Repr

/-- Pass over a text after its opening quote. -/
def skipText : SkipState → Octets → Except Failure Octets
  | _, [] => mistakeAt .endInText []
  | .plain, byte :: rest =>
      if byte = 0x22 then .ok rest
      else if byte = 0x5c then skipText .escape rest
      else if byte < 0x20 then mistakeAt .controlCharacter (byte :: rest)
      else skipText .plain rest
  | .escape, byte :: rest =>
      if byte = 0x75 then skipText (.digits []) rest
      else if (shortEscape? byte).isSome then skipText .plain rest
      else mistakeAt .invalidEscape rest
  | .digits taken, byte :: rest =>
      if taken.length < 3 then skipText (.digits (byte :: taken)) rest
      else if (hexValue? (byte :: taken)).isSome then skipText .plain rest
      else mistakeAt .invalidEscape rest

/-! ## Numbers -/

/-- A number of a text: an integer that fits in 64 bits, or a binary fraction. -/
inductive Number where
  | natural (value : Nat)
  | negative (value : Int)
  | fraction (value : Float)

/-- What a number is called where something else was wanted. -/
def Number.found : Number → Found
  | .natural value => .integer value
  | .negative value => .integer value
  | .fraction value => .fraction (Decimal.Shortest.text value.toBits)

/-- Append digits to a value as long as it fits in 64 bits: the value, how many digits were
taken, and what is left. -/
def takeDigits : Nat → Nat → Octets → Nat × Nat × Octets
  | value, count, [] => (value, count, [])
  | value, count, byte :: rest =>
      if isDigit byte && value * 10 + digitOf byte < 18446744073709551616 then
        takeDigits (value * 10 + digitOf byte) (count + 1) rest
      else (value, count, byte :: rest)

/-- The float nearest to a power of ten. -/
def tenPower (power : Nat) : Float :=
  Float.ofScientific 1 false power

/-- Divide by a power of ten in steps that a float can hold. -/
def divideByTen (value : Float) (power : Nat) : Float :=
  if 308 < power then
    if value == 0 then value else divideByTen (value / tenPower 308) (power - 308)
  else value / tenPower power
termination_by power
decreasing_by omega

/-- `value · 10 ^ exponent`, computed from the nearest float of the value by one multiplication
or by divisions; `none` when it is too large for a float. -/
def scale? (value : Nat) (exponent : Int) : Option Float :=
  let start := (UInt64.ofNat value).toFloat
  if exponent < 0 then some (divideByTen start exponent.natAbs)
  else if exponent ≤ 308 then
    let scaled := start * tenPower exponent.natAbs
    if scaled.isInf then none else some scaled
  else if start == 0 then some start
  else none

/-- Close a number that is not an integer of 64 bits. -/
def closeFraction (isNegative : Bool) (value : Nat) (exponent : Int) : Reader Number := fun input =>
  match scale? value exponent with
  | some float => .ok (.fraction (if isNegative then -float else float), input)
  | none => mistakeAt .numberOutOfRange input

/-- Append exponent digits, up to the greatest 31-bit number; `none` stands for a larger one. -/
def takeExponent : Nat → Octets → Option Nat × Octets
  | value, [] => (some value, [])
  | value, byte :: rest =>
      if isDigit byte then
        if 2147483647 < value * 10 + digitOf byte then (none, rest)
        else takeExponent (value * 10 + digitOf byte) rest
      else (some value, byte :: rest)

/-- Read the sign and digits of an exponent, after its letter. -/
def readExponent (isNegative : Bool) (value : Nat) (exponent : Int) : Reader Number := fun input =>
  let (down, digits) := match input with
    | byte :: rest =>
        if byte = 0x2b then (false, rest) else if byte = 0x2d then (true, rest) else (false, input)
    | [] => (false, input)
  match digits with
  | [] => mistakeAt .endInValue []
  | byte :: rest =>
      if isDigit byte then
        match takeExponent (digitOf byte) rest with
        | (some power, rest) =>
            closeFraction isNegative value (if down then exponent - power else exponent + power)
              rest
        | (none, rest) =>
            if value ≠ 0 ∧ ¬ down then mistakeAt .numberOutOfRange rest
            else .ok (.fraction (if isNegative then -0.0 else 0.0), rest.dropWhile isDigit)
      else mistakeAt .invalidNumber rest

/-- Read the digits after a decimal point. Digits that no longer fit are dropped. -/
def readPlaces (isNegative : Bool) (value : Nat) (exponent : Int) : Reader Number := fun input =>
  let (value, count, unfit) := takeDigits value 0 input
  if ¬ startsWithDigit input then
    if input.isEmpty then mistakeOn .endInValue input else mistakeOn .invalidNumber input
  else match unfit.dropWhile isDigit with
    | letter :: rest =>
        if letter = 0x65 || letter = 0x45 then readExponent isNegative value (exponent - count) rest
        else closeFraction isNegative value (exponent - count) (letter :: rest)
    | [] => closeFraction isNegative value (exponent - count) []

/-- Close a number without a point or exponent. Zero with a minus sign is a fraction, and so is
a negative number below the 64-bit range. -/
def closeInteger (isNegative : Bool) (value : Nat) : Number :=
  if ¬ isNegative then .natural value
  else if value = 0 ∨ 9223372036854775808 < value then
    .fraction (-(UInt64.ofNat value).toFloat)
  else .negative (-(value : Int))

/-- Read a number after its sign. It has no leading zeros. -/
def readNumber (isNegative : Bool) : Reader Number
  | [] => mistakeAt .endInValue []
  | byte :: rest =>
      if ¬ isDigit byte then mistakeAt .invalidNumber rest
      else
        let (value, unfit) :=
          if byte = 0x30 then (0, rest)
          else
            let (value, _, unfit) := takeDigits (digitOf byte) 0 rest
            (value, unfit)
        if byte = 0x30 ∧ startsWithDigit rest then mistakeOn .invalidNumber rest
        else
          let dropped := (unfit.takeWhile isDigit).length
          let after := unfit.dropWhile isDigit
          match after with
          | mark :: places =>
              if mark = 0x2e then readPlaces isNegative value dropped places
              else if mark = 0x65 || mark = 0x45 then readExponent isNegative value dropped places
              else if dropped = 0 then .ok (closeInteger isNegative value, after)
              else closeFraction isNegative value dropped after
          | [] =>
              if dropped = 0 then .ok (closeInteger isNegative value, after)
              else closeFraction isNegative value dropped after

/-- Pass over a sign, if there is one. -/
def skipSign : Octets → Octets
  | [] => []
  | byte :: rest => if byte = 0x2b || byte = 0x2d then rest else byte :: rest

/-- Pass over the digits of an exponent, of which there must be one. -/
def skipExponentDigits : Octets → Except Failure Octets
  | [] => mistakeAt .invalidNumber []
  | byte :: rest =>
      if isDigit byte then .ok (rest.dropWhile isDigit) else mistakeAt .invalidNumber rest

/-- Pass over an exponent, after its letter. -/
def skipExponent (input : Octets) : Except Failure Octets :=
  skipExponentDigits (skipSign input)

/-- Pass over what may follow the whole part of a number. -/
def skipPlaces (input : Octets) : Except Failure Octets :=
  match input with
  | [] => .ok []
  | mark :: rest =>
      if mark = 0x2e then
        match rest with
        | byte :: places =>
            if isDigit byte then
              match places.dropWhile isDigit with
              | letter :: exponent =>
                  if letter = 0x65 || letter = 0x45 then skipExponent exponent
                  else .ok (letter :: exponent)
              | [] => .ok []
            else mistakeOn .invalidNumber rest
        | [] => mistakeOn .invalidNumber []
      else if mark = 0x65 || mark = 0x45 then skipExponent rest
      else .ok input

/-- Pass over a number after its sign. -/
def skipNumber : Octets → Except Failure Octets
  | [] => mistakeAt .invalidNumber []
  | byte :: rest =>
      if byte = 0x30 then
        if startsWithDigit rest then mistakeOn .invalidNumber rest
        else skipPlaces rest
      else if isDigit byte then skipPlaces (rest.dropWhile isDigit)
      else mistakeAt .invalidNumber rest

end SessionGate.Json
