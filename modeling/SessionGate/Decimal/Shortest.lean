import SessionGate.Decimal.Integer

/-!
# The shortest decimal of a binary fraction

A finite 64-bit float is written with the fewest digits that read back to it and, among those,
the nearest. Numbers from 10^-5 up to 10^16 are positional with at least one decimal place; the
others have an exponent with its sign.
-/

namespace SessionGate.Decimal.Shortest

/-- A finite float: `mantissa · 2 ^ exponent` with a sign. -/
structure Binary where
  negative : Bool
  mantissa : Nat
  exponent : Int
  deriving DecidableEq, Repr

/-- The parts of the bits of a finite float. -/
def Binary.ofBits (bits : UInt64) : Binary :=
  let fraction := bits.toNat % Nat.pow 2 52
  let scale : Nat := bits.toNat / Nat.pow 2 52 % Nat.pow 2 11
  let negative := bits.toNat / Nat.pow 2 63 == 1
  if scale = 0 then ⟨negative, fraction, -1074⟩
  else ⟨negative, Nat.pow 2 52 + fraction, Int.ofNat scale - 1075⟩

/-- A nonnegative decimal: the digits of `digits`, with `10 ^ exponent` as the weight of the
last one. -/
structure Digits where
  digits : Nat
  exponent : Int
  deriving DecidableEq, Repr

/-- The quotient of `top · 10 ^ (-exponent)` by `bottom`, rounded down. -/
def quotientAt (top bottom : Nat) (exponent : Int) : Nat :=
  if exponent < 0 then top * Nat.pow 10 exponent.natAbs / bottom
  else top / (bottom * Nat.pow 10 exponent.natAbs)

/-- Compare `digits · 10 ^ exponent` with `top / bottom`. -/
def compareAt (digits : Nat) (exponent : Int) (top bottom : Nat) : Ordering :=
  if exponent < 0 then compare (digits * bottom) (top * Nat.pow 10 exponent.natAbs)
  else compare (digits * Nat.pow 10 exponent.natAbs * bottom) top

/-- The interval of numbers that read back as a float, in quarters of its last binary place:
`(low, value, high)` over a common denominator, and whether the ends belong to it. -/
structure Interval where
  low : Nat
  value : Nat
  high : Nat
  bottom : Nat
  closed : Bool

/-- The interval of a positive float. Below a power of two the next float is half as far. -/
def Binary.interval (binary : Binary) : Interval :=
  let narrow := binary.mantissa = Nat.pow 2 52 ∧ -1074 < binary.exponent
  let low := 4 * binary.mantissa - (if narrow then 1 else 2)
  let scale := binary.exponent - 2
  let up := if scale < 0 then 1 else Nat.pow 2 scale.natAbs
  let bottom := if scale < 0 then Nat.pow 2 scale.natAbs else 1
  ⟨low * up, 4 * binary.mantissa * up, (4 * binary.mantissa + 2) * up, bottom,
    binary.mantissa % 2 == 0⟩

/-- Whether a decimal reads back as the float of the interval. -/
def Interval.holds (interval : Interval) (decimal : Digits) : Bool :=
  let below := compareAt decimal.digits decimal.exponent interval.low interval.bottom
  let above := compareAt decimal.digits decimal.exponent interval.high interval.bottom
  (below == .gt || (interval.closed && below == .eq)) &&
    (above == .lt || (interval.closed && above == .eq))

/-- The nearest decimal on the grid of `10 ^ exponent` that reads back, if there is one. Of two
at the same distance the even one is taken. -/
def Interval.onGrid? (interval : Interval) (exponent : Int) : Option Digits :=
  let floor : Digits := ⟨quotientAt interval.value interval.bottom exponent, exponent⟩
  let ceiling : Digits := ⟨floor.digits + 1, exponent⟩
  let nearer :=
    match compareAt (2 * floor.digits + 1) exponent (2 * interval.value) interval.bottom with
    | .lt => ceiling
    | .gt => floor
    | .eq => if floor.digits % 2 = 0 then floor else ceiling
  let farther := if nearer = floor then ceiling else floor
  if interval.holds nearer then some nearer
  else if interval.holds farther then some farther
  else none

/-- The exponent of the highest digit of `top / bottom`, searched downwards from `start`. -/
def leadingExponent (top bottom : Nat) : Nat → Int → Int
  | 0, start => start
  | fuel + 1, start =>
      if 0 < quotientAt top bottom start then start
      else leadingExponent top bottom fuel (start - 1)

/-- The first grid with a hit, from coarse to fine. -/
def firstHit (interval : Interval) : Nat → Int → Digits
  | 0, exponent => ⟨quotientAt interval.value interval.bottom exponent, exponent⟩
  | fuel + 1, exponent =>
      match interval.onGrid? exponent with
      | some decimal => decimal
      | none => firstHit interval fuel (exponent - 1)

/-- The shortest decimal of a positive float. A float has at most 17 significant digits. -/
def ofBinary (binary : Binary) : Digits :=
  let interval := binary.interval
  firstHit interval 17 (leadingExponent interval.value interval.bottom 640 310)

/-- The digits without trailing zeros, and the exponent of the highest of them. -/
def Digits.normalise (decimal : Digits) : List Char × Int :=
  let digits := Decimal.ofNat decimal.digits
  let kept := (digits.reverse.dropWhile (· == '0')).reverse
  (kept, decimal.exponent + digits.length - 1)

/-- The written form of digits whose highest has the weight `10 ^ exponent`. -/
def layOut (digits : List Char) (exponent : Int) : List Char :=
  if -5 ≤ exponent ∧ exponent < 0 then
    ['0', '.'] ++ List.replicate (exponent.natAbs - 1) '0' ++ digits
  else if 0 ≤ exponent ∧ exponent < 16 then
    let whole := exponent.natAbs + 1
    if digits.length ≤ whole then
      digits ++ List.replicate (whole - digits.length) '0' ++ ['.', '0']
    else digits.take whole ++ '.' :: digits.drop whole
  else
    let head := match digits with
      | first :: second :: rest => first :: '.' :: second :: rest
      | short => short
    let sign := if exponent < 0 then '-' else '+'
    head ++ 'e' :: sign :: Decimal.ofNat exponent.natAbs

/-- The shortest decimal text of the finite float with these bits. -/
def text (bits : UInt64) : String :=
  let binary := Binary.ofBits bits
  let sign := if binary.negative then ['-'] else []
  let body :=
    if binary.mantissa = 0 then ['0', '.', '0']
    else
      let (digits, exponent) := (ofBinary binary).normalise
      layOut digits exponent
  String.ofList (sign ++ body)

end SessionGate.Decimal.Shortest
