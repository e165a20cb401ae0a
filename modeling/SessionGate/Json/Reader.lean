import SessionGate.Json.Skip

/-!
# Reading values of a known kind

Texts, integers of a range, optional texts and named variants are read from the front of the
input. Where something else stands, it is named in the failure.
-/

namespace SessionGate.Json

/-- Name the value at the front of the input, which has no blanks there. Texts, words and numbers
are read to their end; a list or an object is named at its opening bracket. -/
def readFound : Reader Found
  | [] => mistakeOn .endInValue []
  | byte :: rest =>
      match Char.ofUInt8 byte with
      | 'n' => (takeWord ['u', 'l', 'l'] rest).map (Found.null, ·)
      | 't' => (takeWord ['r', 'u', 'e'] rest).map (Found.boolean true, ·)
      | 'f' => (takeWord ['a', 'l', 's', 'e'] rest).map (Found.boolean false, ·)
      | '-' => (readNumber true rest).map fun (number, after) => (number.found, after)
      | '"' => (readText rest).map fun (text, after) => (.text text, after)
      | '[' => .ok (.list, byte :: rest)
      | '\x7b' => .ok (.object, byte :: rest)
      | _ =>
          if isDigit byte then
            (readNumber false (byte :: rest)).map fun (number, after) => (number.found, after)
          else mistakeOn .expectedValue (byte :: rest)

/-- Refuse the value at the front of the input, which has no blanks there. -/
def refuseKind {α : Type} (wanted : String) (input : Octets) : Except Failure α := do
  let (found, rest) ← readFound input
  mismatchAt (.wrongKind found wanted) rest

/-- Read a text; `wanted` says in a failure what was wanted. -/
def textWanted (wanted : String) : Reader String := fun input =>
  match skipBlanks input with
  | [] => mistakeOn .endInValue []
  | byte :: rest => if byte = 0x22 then readText rest else refuseKind wanted (byte :: rest)

def text : Reader String :=
  textWanted "a string"

/-- Read a text that stands for a value of its own. -/
def textOf {α : Type} (wanted : String) (parse : String → Except String α) : Reader α :=
  fun input => do
    let (written, rest) ← textWanted wanted input
    match parse written with
    | .ok value => .ok (value, rest)
    | .error reason => mismatchAt (.unreadable reason) rest

/-- Read an integer of a range. A fraction is never an integer. -/
def integer (range : Decimal.IntegerRange) (wanted : String) : Reader Int := fun input => do
  let accept (number : Number) (rest : Octets) : Except Failure (Int × Octets) :=
    match number with
    | .natural value =>
        if (value : Int) ≤ range.greatest then .ok (value, rest)
        else mismatchAt (.wrongValue number.found wanted) rest
    | .negative value =>
        if range.least ≤ value then .ok (value, rest)
        else mismatchAt (.wrongValue number.found wanted) rest
    | .fraction _ => mismatchAt (.wrongKind number.found wanted) rest
  match skipBlanks input with
  | [] => mistakeOn .endInValue []
  | byte :: rest =>
      if byte = 0x2d then
        let (number, after) ← readNumber true rest
        accept number after
      else if isDigit byte then
        let (number, after) ← readNumber false (byte :: rest)
        accept number after
      else refuseKind wanted (byte :: rest)

/-- Read a value or the word for no value. -/
def optional {α : Type} (reader : Reader α) : Reader (Option α) := fun input =>
  match skipBlanks input with
  | [] => (reader []).map fun (value, after) => (some value, after)
  | byte :: rest =>
      if byte = 0x6e then (takeWord ['u', 'l', 'l'] rest).map (none, ·)
      else (reader (byte :: rest)).map fun (value, after) => (some value, after)

/-- Take the word for no value. -/
def takeNull (input : Octets) : Except Failure Octets :=
  match skipBlanks input with
  | [] => mistakeOn .endInValue []
  | byte :: rest =>
      if byte = 0x6e then takeWord ['u', 'l', 'l'] rest else refuseKind "unit" (byte :: rest)

/-- Read the name of a variant, after its opening quote. -/
def variantName {α : Type} (variants : List (String × α)) (wanted : String) : Reader α :=
  fun input => do
    let (name, rest) ← readText input
    match variants.lookup name with
    | some value => .ok (value, rest)
    | none => mismatchAt (.unknownVariant name wanted) rest

/-- Take the opening quote of the key of an object of one member. -/
def takeKeyQuote (input : Octets) : Except Failure Octets :=
  match skipBlanks input with
  | [] => mistakeOn .endInObject []
  | byte :: rest =>
      if byte = 0x22 then .ok rest
      else if byte = 0x7d then mistakeOn .expectedValue (byte :: rest)
      else mistakeOn .keyNotText (byte :: rest)

/-- Take the closing bracket of an object of one member. -/
def closeVariant (input : Octets) : Except Failure Octets :=
  match skipBlanks input with
  | [] => mistakeAt .endInObject []
  | byte :: rest => if byte = 0x7d then .ok rest else mistakeAt .expectedValue (byte :: rest)

/-- Read a variant: its name alone, or an object with the name as its only key and no value. -/
def variant {α : Type} (variants : List (String × α)) (wanted : String) : Reader α := fun input =>
  match skipBlanks input with
  | [] => mistakeOn .endInValue []
  | byte :: rest =>
      if byte = 0x22 then variantName variants wanted rest
      else if byte = 0x7b then do
        let rest ← takeKeyQuote rest
        let (value, rest) ← variantName variants wanted rest
        let rest ← takeColon rest
        let rest ← takeNull rest
        let rest ← closeVariant rest
        return (value, rest)
      else mistakeOn .expectedValue (byte :: rest)

/-- Read a whole text: one value, and only blanks after it. -/
def readWhole {α : Type} (reader : Reader α) (input : Octets) : Except ReadError α :=
  let outcome := do
    let (value, rest) ← reader input
    match skipBlanks rest with
    | [] => .ok value
    | extra => mistakeOn .trailingCharacters extra
  outcome.mapError (Failure.locate input)

end SessionGate.Json
