import SessionGate.Decimal.Integer
import SessionGate.Events
import SessionGate.Text.Blank

/-!
# Log filters

A filter says up to which level the events of a target are shown. It is a list of directives
divided by commas: a level for all targets, or a target and what is shown of it. A directive may
name a span or a field in brackets before its level. The directive with the longest target that
begins an event's target decides.
-/

namespace SessionGate

/-- Up to which level events are shown: up to none, up to one of the levels of events, or all. -/
inductive Threshold where
  | off
  | upTo (level : Level)
  | all
  deriving DecidableEq, Repr

/-- The rank of a level, the gravest first. -/
def Level.rank : Level → Nat
  | .error => 1
  | .warn => 2
  | .info => 3
  | .debug => 4

namespace Threshold

def admits : Threshold → Level → Bool
  | .off, _ => false
  | .upTo greatest, level => level.rank ≤ greatest.rank
  | .all, _ => true

def ofNumber? : Int → Option Threshold
  | 0 => some .off
  | 1 => some (.upTo .error)
  | 2 => some (.upTo .warn)
  | 3 => some (.upTo .info)
  | 4 => some (.upTo .debug)
  | 5 => some .all
  | _ => none

/-- The threshold of a name, in letters of either case. -/
def ofName? (name : String) : Option Threshold :=
  [("off", .off), ("error", .upTo .error), ("warn", .upTo .warn), ("info", .upTo .info),
    ("debug", .upTo .debug), ("trace", Threshold.all)].lookup name.toLower

/-- Read a threshold: its number or its name. -/
def read? (text : String) : Option Threshold :=
  match Decimal.IntegerRange.unsigned64.read text with
  | .ok number => ofNumber? number
  | .error _ => ofName? text

end Threshold

/-- A directive: the beginning of a target, or none for all targets, the fields that an event has
to have, and what is shown. One that is scoped holds only inside of spans. -/
structure Directive where
  target : Option String
  fields : List String
  isScoped : Bool
  threshold : Threshold
  deriving DecidableEq, Repr

namespace Directive

/-- Where a directive is being read: before its first character, in a word that may be a target or
a level, in the name of a span, in a field, after the fields, after the bracket, or in a level.
Places with parts know where the part began. -/
inductive Place where
  | beginning
  | word (start : Nat)
  | span (start : Nat)
  | field (start : Nat)
  | afterFields
  | afterBracket
  | level (start : Nat)
  deriving DecidableEq, Repr

/-- A directive that shows everything, to be filled in. -/
def blank : Directive := ⟨none, [], false, .all⟩

/-- Whether a directive may begin with a character. One beyond ASCII counts as a letter. -/
def canBegin (character : Char) : Bool :=
  character.isAlphanum || character == '-' || character == ':' || character == '_' ||
    0x80 ≤ character.toNat

def part (text : List Char) (start finish : Nat) : String :=
  String.ofList ((text.drop start).take (finish - start))

/-- The directive with a field. A field that is to have a value is looked for in spans only. -/
def withField (directive : Directive) (field : String) : Directive :=
  { directive with
    fields := directive.fields ++ [field]
    isScoped := directive.isScoped || field.toList.contains '=' }

/-- Go on by one character, the one at `index`; parts are taken from `text`. -/
def step (text : List Char) (index : Nat) (character : Char) (place : Place)
    (directive : Directive) : Option (Place × Directive) :=
  match place, character with
  | .beginning, '[' => some (.span (index + 1), directive)
  | .beginning, _ => if canBegin character then some (.word index, directive) else none
  | .word start, '=' =>
      some (.level (index + 1), { directive with target := some (part text start index) })
  | .word start, '[' =>
      some (.span (index + 1), { directive with target := some (part text start index) })
  | .word start, _ => some (.word start, directive)
  | .span _, ']' => some (.afterBracket, { directive with isScoped := true })
  | .span start, '\x7b' =>
      some (.field (index + 1), { directive with isScoped := !(part text start index).isEmpty })
  | .span start, _ => some (.span start, directive)
  | .field start, '\x7d' =>
      let field := part text start index
      if field.isEmpty then none else some (.afterFields, directive.withField field)
  | .field start, _ => some (.field start, directive)
  | .afterFields, ']' => some (.afterBracket, directive)
  | .afterBracket, '=' => some (.level (index + 1), directive)
  | .level start, _ => some (.level start, directive)
  | _, _ => none

/-- Read on to the end, from the character at `index`. -/
def scan (text : List Char) (index : Nat) (place : Place) (directive : Directive) :
    List Char → Option (Place × Directive)
  | [] => some (place, directive)
  | character :: rest => do
      let (place, directive) ← step text index character place directive
      scan text (index + 1) place directive rest

/-- Complete a directive that has been read to its end. A word that is no level is a target. -/
def complete (text : List Char) (place : Place) (directive : Directive) : Option Directive :=
  match place with
  | .word start =>
      let word := part text start text.length
      match Threshold.read? word with
      | some threshold => some { directive with threshold }
      | none => some { directive with target := some word }
  | .level start =>
      let level := part text start text.length
      if level.isEmpty then some directive
      else (Threshold.read? level).map fun threshold => { directive with threshold }
  | .afterBracket => some directive
  | _ => none

/-- Read a directive. Blanks around it do not count when its form is made out, but its parts are
taken from the text as it stands. -/
def read? (text : String) : Option Directive := do
  let (place, directive) ← scan text.toList 0 .beginning blank (Text.trim text).toList
  complete text.toList place directive

/-- Whether the directive is about events of a target with the given fields. -/
def concerns (directive : Directive) (target : String) (fields : List String) : Bool :=
  !directive.isScoped &&
    (directive.target.getD "").toList.isPrefixOf target.toList &&
    directive.fields.all fields.contains

/-- How specific a directive is: the size of its target first, then the number of its fields. -/
def specificity (directive : Directive) : Nat × Nat :=
  ((directive.target.map fun target => target.utf8ByteSize + 1).getD 0, directive.fields.length)

/-- The more specific of two directives; of two alike the later. -/
def moreSpecific (best : Option Directive) (directive : Directive) : Option Directive :=
  match best with
  | none => some directive
  | some present =>
      let (size, count) := present.specificity
      let (newSize, newCount) := directive.specificity
      if size < newSize ∨ (size = newSize ∧ count ≤ newCount) then some directive
      else some present

end Directive

abbrev LogFilter := List Directive

namespace LogFilter

/-- The filter that shows events of all targets up to a level. -/
def upTo (level : Level) : LogFilter := [⟨none, [], false, .upTo level⟩]

/-- The filter that shows what is not for finding faults. -/
def standard : LogFilter := upTo .info

/-- Read a filter. Empty directives do not count, and without any only errors are shown. -/
def read? (text : String) : Option LogFilter := do
  let directives ← ((text.splitOn ",").filter (!·.isEmpty)).mapM Directive.read?
  return if directives.isEmpty then upTo .error else directives

/-- Whether an event outside of spans is shown: one of a target, with the given fields and of a
level. -/
def admits (filter : LogFilter) (target : String) (fields : List String) (level : Level) : Bool :=
  let concerned := filter.filter (·.concerns target fields)
  match concerned.foldl Directive.moreSpecific none with
  | some directive => directive.threshold.admits level
  | none => false

end LogFilter

end SessionGate
