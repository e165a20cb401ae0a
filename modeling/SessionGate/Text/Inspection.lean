import SessionGate.Text.Quoted

/-!
# Inspection text

Values are shown to operators as records: a name, and fields with their values between braces. A
record that keeps some of its fields to itself says so with two dots.
-/

namespace SessionGate.Text

/-- One field of a record with the inspection text of its value. -/
structure ShownField where
  name : String
  value : String

/-- The record text of a name and fields. `hidesRest` marks a record that has more fields than
it shows. -/
def showRecord (name : String) (fields : List ShownField) (hidesRest : Bool) : String :=
  let shown := fields.map fun field => field.name ++ ": " ++ field.value
  let parts := if hidesRest then shown ++ [".."] else shown
  name ++ " \x7b " ++ ", ".intercalate parts ++ " \x7d"

/-- The text of a value under a constructor name. -/
def showWrapped (name value : String) : String :=
  name ++ "(" ++ value ++ ")"

def showOptional : Option String → String
  | none => "None"
  | some text => showWrapped "Some" (quote text)

end SessionGate.Text
