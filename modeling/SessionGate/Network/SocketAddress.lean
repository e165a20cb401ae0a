import SessionGate.Decimal.Integer

/-!
# Socket addresses

A socket address is an internet address of version four or six, and a number of sixteen bits that
tells the services there apart. It is read from the whole of a text. In the written form an
address of version six has its longest run of zero groups left out, and a version four address
embedded in it is written as such.
-/

namespace SessionGate.Network

/-- An internet address: four octets, or eight groups of sixteen bits and a scope, of which zero
means none. -/
inductive Address where
  | four (octets : Vector UInt8 4)
  | six (groups : Vector UInt16 8) (scope : UInt32)
  deriving DecidableEq, Repr

/-- An address, and the number of a service there. -/
structure SocketAddress where
  address : Address
  portNumber : UInt16
  deriving DecidableEq, Repr

namespace SocketAddress

/-! ## Reading -/

/-- Takes a value from the front of a text and leaves the rest. -/
abbrev Taker (α : Type) := List Char → Option (α × List Char)

/-- The value of a digit of a base up to sixteen. -/
def digitOf? (base : Nat) (character : Char) : Option Nat :=
  let code := character.toNat
  let value :=
    if 48 ≤ code ∧ code ≤ 57 then code - 48
    else if 97 ≤ code ∧ code ≤ 102 then code - 87
    else if 65 ≤ code ∧ code ≤ 70 then code - 55
    else base
  if value < base then some value else none

/-- How a number is written: its base, the greatest value, how many digits there may be, if that
is limited, and whether zeros may stand before other digits. -/
structure NumberForm where
  base : Nat
  greatest : Nat
  mostDigits : Option Nat
  allowsLeadingZeros : Bool

def NumberForm.octet : NumberForm := ⟨10, 255, some 3, false⟩

def NumberForm.group : NumberForm := ⟨16, 65535, some 4, true⟩

def NumberForm.portNumber : NumberForm := ⟨10, 65535, none, true⟩

def NumberForm.scope : NumberForm := ⟨10, 4294967295, none, true⟩

/-- Whether digits are written in the form. -/
def NumberForm.admits (form : NumberForm) (digits : List Nat) : Bool :=
  !digits.isEmpty && form.mostDigits.all (digits.length ≤ ·) &&
    (form.allowsLeadingZeros || digits.head? != some 0 || digits.length == 1)

def valueOf (base : Nat) (digits : List Nat) : Nat :=
  digits.foldl (fun value digit => value * base + digit) 0

/-- Take a number of the form: all the digits there are. -/
def takeNumber (form : NumberForm) : Taker Nat := fun input =>
  let isDigit (character : Char) : Bool := (digitOf? form.base character).isSome
  let digits := (input.takeWhile isDigit).filterMap (digitOf? form.base)
  let value := valueOf form.base digits
  if form.admits digits && value ≤ form.greatest then some (value, input.dropWhile isDigit)
  else none

def takeCharacter (character : Char) : Taker Unit
  | [] => none
  | first :: rest => if first = character then some ((), rest) else none

/-- Take a value that stands behind a separator unless it is the first. -/
def takeNext {α : Type} (separator : Char) (isFirst : Bool) (take : Taker α) : Taker α :=
  fun input =>
    if isFirst then take input
    else match takeCharacter separator input with
      | none => none
      | some (_, rest) => take rest

/-- Take the four octets of an address of version four. -/
def takeFour : Taker (Vector UInt8 4) := fun input => do
  let (first, rest) ← takeNumber .octet input
  let (second, rest) ← takeNext '.' false (takeNumber .octet) rest
  let (third, rest) ← takeNext '.' false (takeNumber .octet) rest
  let (fourth, rest) ← takeNext '.' false (takeNumber .octet) rest
  return (#v[first.toUInt8, second.toUInt8, third.toUInt8, fourth.toUInt8], rest)

/-- Two octets as a group, the first one high. -/
def groupOf (high low : UInt8) : UInt16 :=
  high.toUInt16 * 256 + low.toUInt16

/-- The two groups of an embedded address of version four. -/
def groupsOf (octets : Vector UInt8 4) : List UInt16 :=
  [groupOf octets[0] octets[1], groupOf octets[2] octets[3]]

/-- Groups as far as they go, whether they end in an embedded address of version four, and the
rest. -/
structure TakenGroups where
  groups : List UInt16
  endsInFour : Bool
  rest : List Char

/-- Take groups up to a number, the last two possibly as an address of version four. -/
def takeGroups : Nat → Bool → List Char → TakenGroups
  | 0, _, input => ⟨[], false, input⟩
  | room + 1, isFirst, input =>
      let embedded := if room = 0 then none else takeNext ':' isFirst takeFour input
      match embedded with
      | some (octets, rest) => ⟨groupsOf octets, true, rest⟩
      | none =>
          match takeNext ':' isFirst (takeNumber .group) input with
          | none => ⟨[], false, input⟩
          | some (group, rest) =>
              let taken := takeGroups room false rest
              { taken with groups := group.toUInt16 :: taken.groups }

/-- Eight groups with zeros between a front and a back. -/
def fillGroups (front back : List UInt16) : Vector UInt16 8 :=
  let groups := front ++ List.replicate (8 - front.length - back.length) 0 ++ back
  Vector.ofFn fun position => groups.getD position 0

/-- Take the groups of an address of version six. Two colons stand for at least one group of
zeros, and an embedded address of version four stands at the end. -/
def takeSix : Taker (Vector UInt16 8) := fun input => do
  let front := takeGroups 8 true input
  if front.groups.length = 8 then
    return (fillGroups front.groups [], front.rest)
  else if front.endsInFour then
    none
  else
    let (_, rest) ← takeCharacter ':' front.rest
    let (_, rest) ← takeCharacter ':' rest
    let back := takeGroups (7 - front.groups.length) true rest
    return (fillGroups front.groups back.groups, back.rest)

/-- Take the scope after an address of version six, or nothing if there is none. -/
def takeScope (input : List Char) : Nat × List Char :=
  match (takeCharacter '%' input).bind fun (_, rest) => takeNumber .scope rest with
  | some scope => scope
  | none => (0, input)

/-- Take a colon and the number of a service. -/
def takePortNumber : Taker UInt16 := fun input => do
  let (_, rest) ← takeCharacter ':' input
  let (number, rest) ← takeNumber .portNumber rest
  return (number.toUInt16, rest)

/-- Take a socket address of version four. -/
def takeSocketFour : Taker SocketAddress := fun input => do
  let (octets, rest) ← takeFour input
  let (portNumber, rest) ← takePortNumber rest
  return (⟨.four octets, portNumber⟩, rest)

/-- Take a socket address of version six, whose address is in brackets. -/
def takeSocketSix : Taker SocketAddress := fun input => do
  let (_, rest) ← takeCharacter '[' input
  let (groups, rest) ← takeSix rest
  let (scope, rest) := takeScope rest
  let (_, rest) ← takeCharacter ']' rest
  let (portNumber, rest) ← takePortNumber rest
  return (⟨.six groups scope.toUInt32, portNumber⟩, rest)

def read? (text : String) : Option SocketAddress :=
  match takeSocketFour text.toList <|> takeSocketSix text.toList with
  | some (address, []) => some address
  | _ => none

/-- The wording of a text that is no socket address. -/
def invalidText : String := "invalid socket address syntax"

/-! ## Writing -/

def writeFour (octets : List UInt8) : List Char :=
  List.intercalate ['.'] (octets.map fun octet => Decimal.ofNat octet.toNat)

def writeGroups (groups : List UInt16) : List Char :=
  List.intercalate [':'] (groups.map fun group => Nat.toDigits 16 group.toNat)

def zerosInFront (groups : List UInt16) : Nat :=
  (groups.takeWhile (· == 0)).length

/-- The first of the longest runs of zeros: where it begins, and its length. -/
def longestZeros (groups : List UInt16) : Nat × Nat :=
  (List.range groups.length).foldl
    (fun best start =>
      let length := zerosInFront (groups.drop start)
      if best.2 < length then (start, length) else best)
    (0, 0)

/-- The octets of an address of version four that the groups embed, marked by a group of ones
after zeros. -/
def embeddedFour? (groups : List UInt16) : Option (List UInt8) :=
  match groups with
  | [0, 0, 0, 0, 0, 0xffff, high, low] =>
      some [(high / 256).toUInt8, high.toUInt8, (low / 256).toUInt8, low.toUInt8]
  | _ => none

/-- The written form of eight groups. A single group of zeros is not left out. -/
def writeSix (groups : List UInt16) : List Char :=
  match embeddedFour? groups with
  | some octets => "::ffff:".toList ++ writeFour octets
  | none =>
      let (start, length) := longestZeros groups
      if length < 2 then writeGroups groups
      else
        writeGroups (groups.take start) ++ "::".toList ++
          writeGroups (groups.drop (start + length))

/-- The written form of an address, as it stands in a socket address. -/
def writeAddress : Address → List Char
  | .four octets => writeFour octets.toList
  | .six groups scope =>
      let zone := if scope = 0 then [] else '%' :: Decimal.ofNat scope.toNat
      '[' :: writeSix groups.toList ++ zone ++ [']']

def text (socket : SocketAddress) : String :=
  String.ofList (writeAddress socket.address ++ ':' :: Decimal.ofNat socket.portNumber.toNat)

end SocketAddress

end SessionGate.Network
