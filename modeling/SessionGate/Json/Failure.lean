import SessionGate.Decimal.Integer
import SessionGate.Octets
import SessionGate.Text.Quoted

/-!
# Failures of reading JSON

Reading fails for a mistake in the text or for a mismatch between a correct text and the value
that was wanted. A failure records what was still unread when it was noticed; its line and
column count the bytes before that.
-/

namespace SessionGate.Json

inductive Mistake where
  | endInValue
  | endInList
  | endInObject
  | endInText
  | expectedValue
  | expectedWord
  | expectedColon
  | expectedListEnd
  | expectedObjectEnd
  | keyNotText
  | trailingComma
  | trailingCharacters
  | invalidNumber
  | numberOutOfRange
  | invalidEscape
  | invalidCodePoint
  | controlCharacter
  | loneSurrogate
  | endOfEscape
  deriving DecidableEq, Repr

def Mistake.message : Mistake → String
  | .endInValue => "EOF while parsing a value"
  | .endInList => "EOF while parsing a list"
  | .endInObject => "EOF while parsing an object"
  | .endInText => "EOF while parsing a string"
  | .expectedValue => "expected value"
  | .expectedWord => "expected ident"
  | .expectedColon => "expected `:`"
  | .expectedListEnd => "expected `,` or `]`"
  | .expectedObjectEnd => "expected `,` or `\x7d`"
  | .keyNotText => "key must be a string"
  | .trailingComma => "trailing comma"
  | .trailingCharacters => "trailing characters"
  | .invalidNumber => "invalid number"
  | .numberOutOfRange => "number out of range"
  | .invalidEscape => "invalid escape"
  | .invalidCodePoint => "invalid unicode code point"
  | .controlCharacter => "control character (\\u0000-\\u001F) found while parsing a string"
  | .loneSurrogate => "lone leading surrogate in hex escape"
  | .endOfEscape => "unexpected end of hex escape"

/-- What stands in the text where something else was wanted. A fraction is kept as its written
form. -/
inductive Found where
  | null
  | boolean (value : Bool)
  | integer (value : Int)
  | fraction (written : String)
  | text (value : String)
  | list
  | object
  deriving DecidableEq, Repr

def Found.message : Found → String
  | .null => "null"
  | .boolean true => "boolean `true`"
  | .boolean false => "boolean `false`"
  | .integer value => "integer `" ++ Decimal.text value ++ "`"
  | .fraction written => "floating point `" ++ written ++ "`"
  | .text value => "string " ++ Text.quote value
  | .list => "sequence"
  | .object => "map"

/-- A mismatch between a correct text and the value that was wanted. -/
inductive Mismatch where
  | wrongKind (found : Found) (wanted : String)
  | wrongValue (found : Found) (wanted : String)
  | wrongLength (length : Nat) (wanted : String)
  | unknownVariant (name wanted : String)
  | missingField (name : String)
  | duplicateField (name : String)
  | unreadable (reason : String)
  deriving DecidableEq, Repr

def Mismatch.message : Mismatch → String
  | .wrongKind found wanted => "invalid type: " ++ found.message ++ ", expected " ++ wanted
  | .wrongValue found wanted => "invalid value: " ++ found.message ++ ", expected " ++ wanted
  | .wrongLength length wanted =>
      "invalid length " ++ Decimal.text length ++ ", expected " ++ wanted
  | .unknownVariant name wanted => "unknown variant `" ++ name ++ "`, expected " ++ wanted
  | .missingField name => "missing field `" ++ name ++ "`"
  | .duplicateField name => "duplicate field `" ++ name ++ "`"
  | .unreadable reason => reason

/-- Why reading failed. -/
inductive Cause where
  | mistake (mistake : Mistake)
  | mismatch (mismatch : Mismatch)
  deriving DecidableEq, Repr

def Cause.message : Cause → String
  | .mistake problem => problem.message
  | .mismatch problem => problem.message

/-- A step from a value to one of its parts. -/
inductive PathStep where
  | field (name : String)
  | element (index : Nat)
  deriving DecidableEq, Repr

/-- The text of a path: field names joined by dots, positions in brackets. -/
def pathText : List PathStep → String
  | [] => ""
  | .field name :: rest => name ++ continued rest
  | .element index :: rest => "[" ++ Decimal.text index ++ "]" ++ continued rest
where
  /-- The text of the steps after the first. -/
  continued : List PathStep → String
    | [] => ""
    | .field name :: rest => "." ++ name ++ continued rest
    | .element index :: rest => "[" ++ Decimal.text index ++ "]" ++ continued rest

/-- A failure: its cause, what was unread when it was noticed, and the part it lies in. -/
structure Failure where
  cause : Cause
  unread : Octets
  path : List PathStep
  deriving DecidableEq, Repr

/-- The failure as one of a part of the value being read. -/
def Failure.within (step : PathStep) (failure : Failure) : Failure :=
  { failure with path := step :: failure.path }

/-- A mistake noticed before the unread bytes. -/
def mistakeAt {α : Type} (mistake : Mistake) (unread : Octets) : Except Failure α :=
  .error ⟨.mistake mistake, unread, []⟩

/-- A mistake noticed on the first of the unread bytes, which then counts as read. -/
def mistakeOn {α : Type} (mistake : Mistake) (unread : Octets) : Except Failure α :=
  mistakeAt mistake (unread.drop 1)

/-- A mismatch noticed before the unread bytes. -/
def mismatchAt {α : Type} (mismatch : Mismatch) (unread : Octets) : Except Failure α :=
  .error ⟨.mismatch mismatch, unread, []⟩

/-- A failure with its place in the text: lines count from one, columns the bytes of the line. -/
structure ReadError where
  cause : Cause
  path : List PathStep
  line : Nat
  column : Nat
  deriving DecidableEq, Repr

/-- The line and column after the given bytes. -/
def placeAfter (read : Octets) : Nat × Nat :=
  read.foldl
    (fun ((line, column) : Nat × Nat) (byte : UInt8) =>
      if byte = 0x0a then (line + 1, 0) else (line, column + 1))
    (1, 0)

/-- Place a failure in the text that was read. -/
def Failure.locate (input : Octets) (failure : Failure) : ReadError :=
  let place := placeAfter (input.take (input.length - failure.unread.length))
  ⟨failure.cause, failure.path, place.1, place.2⟩

def ReadError.message (error : ReadError) : String :=
  error.cause.message ++ " at line " ++ Decimal.text error.line ++ " column " ++
    Decimal.text error.column

/-- The wording of a failure with its place, after the part it lies in. -/
def ReadError.messageWithPath (error : ReadError) : String :=
  if error.path.isEmpty then error.message else pathText error.path ++ ": " ++ error.message

end SessionGate.Json
