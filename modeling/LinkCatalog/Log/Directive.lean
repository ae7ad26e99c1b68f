import LinkCatalog.Log.Pattern
import LinkCatalog.Telemetry
import LinkCatalog.Text.Blank
import LinkCatalog.Text.Bytes
import LinkCatalog.Text.Digits
import LinkCatalog.Text.WordChar

/-!
# Directives of the log

A directive says how much is logged from some parts of the program. It is written
`target[span{field=value}]=level`, where every part may be left out.

## Main definitions

- `Level.verbosity` — the levels as numbers
- `Directive` — directives
- `Directive.ofText` — reads a directive
- `Directive.covers` — whether a directive speaks of an event
- `Directive.isAtMostAsSpecificAs` — the order in which directives are asked

## Design notes

The marks of a directive are looked for in its text without the blanks at both ends. The parts are
then cut from the text as it was given, at the places of the marks. So a blank behind a directive
belongs to its last part, and a blank in front moves every part by its length.
-/

namespace LinkCatalog

/-- The number of a level. A threshold is such a number, or 0 for nothing. -/
def Level.verbosity : Level → Nat
  | .error => 1
  | .warn => 2
  | .info => 3
  | .debug => 4
  | .trace => 5

/-- A field that an event must have, perhaps with a given value. -/
structure FieldCondition where
  name : String
  value : Option String
deriving DecidableEq, Repr

/-- How much is logged from some parts of the program. -/
structure Directive where
  /-- What the names of these parts start with. -/
  target : String := ""
  /-- The activity during which the directive holds, if it names one. -/
  span : Option String := none
  field : Option FieldCondition := none
  threshold : Nat := Level.trace.verbosity
deriving DecidableEq, Repr

namespace Directive

/-- Why a directive cannot be read. -/
inductive Error where
  | malformed
  | unknownLevel
  /-- The value of a field is neither a number nor a pattern. -/
  | field (error : Pattern.Error)
  /-- A part would begin or end within a character. -/
  | torn
deriving DecidableEq, Repr

/-- The wording of an error. -/
def Error.message : Error → String
  | .malformed => "invalid filter directive"
  | .unknownLevel => "error parsing level filter: expected one of \"off\", \"error\", \"warn\", " ++
      "\"info\", \"debug\", \"trace\", or a number 0-5"
  | .field error => "invalid field filter: " ++ error.message
  | .torn => "filter directive with a part that ends within a character"

-- ════════════════════════════════════════════════════════════════════════
-- Reading
-- ════════════════════════════════════════════════════════════════════════

/-- The names of the thresholds. -/
def thresholdNames : List String := ["off", "error", "warn", "info", "debug", "trace"]

/-- Reads a threshold: its name in any letter case, or its number. -/
def threshold? (text : List Char) : Option Nat :=
  match thresholdNames.findIdx? (· == (String.ofList text).toLower) with
  | some threshold => some threshold
  | none => Digits.unsigned? Level.trace.verbosity text

/-- Whether a target may start with a character. -/
def startsTarget (c : Char) : Bool :=
  Text.isWordChar c || c == '-' || c == ':' || c == '_'

/-- The part of a text between two places. -/
def part (text : List Char) (start stop : Nat) : Except Error (List Char) :=
  match Text.slice? start stop text with
  | some part => .ok part
  | none => .error .torn

/-- Whether a text is an exponent, or empty. -/
def isExponent : List Char → Bool
  | [] => true
  | c :: cs =>
    let digits := match cs with
      | '+' :: rest | '-' :: rest => rest
      | _ => cs
    (c == 'e' || c == 'E') && digits != [] && digits.all Char.isDigit

/-- Whether a text is a decimal number without sign. There are digits before or behind the point. -/
def isDecimal (cs : List Char) : Bool :=
  let whole := cs.takeWhile Char.isDigit
  let rest := cs.dropWhile Char.isDigit
  match rest with
  | '.' :: rest =>
    (whole != [] || rest.takeWhile Char.isDigit != []) && isExponent (rest.dropWhile Char.isDigit)
  | _ => whole != [] && isExponent rest

/-- Whether a value is a number: decimal, infinite or none, with or without a sign. -/
def isNumber (value : List Char) : Bool :=
  let magnitude := match value with
    | '+' :: rest | '-' :: rest => rest
    | _ => value
  ["inf", "infinity", "nan"].contains (String.ofList magnitude).toLower || isDecimal magnitude

/-- Reads a name and a value around an equals sign. What follows a second equals sign is left out. A
    value that is not a number must be a pattern. -/
def readCondition (text : List Char) : Except Error FieldCondition := do
  let name := String.ofList (text.takeWhile (· != '='))
  match text.dropWhile (· != '=') with
  | _ :: rest =>
    let value := rest.takeWhile (· != '=')
    if !isNumber value then
      (Pattern.check value).mapError .field
    return { name, value := some (String.ofList value) }
  | [] => return { name, value := none }

/-- Reads the level from a place on. An empty text stands for the highest level. -/
def readLevel (text : List Char) (start : Nat) (directive : Directive) :
    Except Error Directive := do
  let level ← part text start (Text.byteLength text)
  if level = [] then return directive
  match threshold? level with
  | some threshold => return { directive with threshold }
  | none => throw .unknownLevel

/-- Reads what follows the target and the brackets; `rest` is the remaining text from `start` on. -/
def readEnd (text rest : List Char) (start : Nat) (directive : Directive) :
    Except Error Directive :=
  match rest with
  | [] => .ok directive
  | '=' :: _ => readLevel text (start + 1) directive
  | _ => .error .malformed

/-- Reads the text within braces and what follows it. -/
def readField (text rest : List Char) (start : Nat) (directive : Directive) :
    Except Error Directive := do
  let stop := start + Text.byteLength (rest.takeWhile (· != '\x7d'))
  match rest.dropWhile (· != '\x7d') with
  | [] => throw .malformed
  | _ :: rest =>
    let field ← part text start stop
    if field = [] then throw .malformed
    let condition ← readCondition field
    match rest with
    | ']' :: rest => readEnd text rest (stop + 2) { directive with field := some condition }
    | _ => throw .malformed

/-- Reads the text within brackets and what follows it. -/
def readSpan (text rest : List Char) (start : Nat) (directive : Directive) :
    Except Error Directive := do
  let ends := fun c => c == ']' || c == '\x7b'
  let stop := start + Text.byteLength (rest.takeWhile fun c => !ends c)
  match rest.dropWhile fun c => !ends c with
  | [] => throw .malformed
  | mark :: rest =>
    let span ← part text start stop
    if mark = ']' then
      readEnd text rest (stop + 1) { directive with span := some (String.ofList span) }
    else
      let span := if span = [] then none else some (String.ofList span)
      readField text rest (stop + 1) { directive with span }

/-- Reads a directive that starts with a target or is a level; `core` is its text without blanks at
    both ends. -/
def readTarget (text core : List Char) : Except Error Directive := do
  let ends := fun c => c == '=' || c == '['
  let stop := Text.byteLength (core.takeWhile fun c => !ends c)
  match core.dropWhile fun c => !ends c with
  | [] =>
    match threshold? text with
    | some threshold => return { threshold }
    | none => return { target := String.ofList text }
  | mark :: rest =>
    let target ← part text 0 stop
    let directive : Directive := { target := String.ofList target }
    if mark = '=' then readLevel text (stop + 1) directive
    else readSpan text rest (stop + 1) directive

/-- Reads a directive. A directive without a level has everything logged. -/
def ofText (text : String) : Except Error Directive :=
  match Text.trim text.toList with
  | '[' :: rest => readSpan text.toList rest 1 {}
  | c :: rest =>
    if startsTarget c then readTarget text.toList (c :: rest) else .error .malformed
  | [] => .error .malformed

-- ════════════════════════════════════════════════════════════════════════
-- Meaning
-- ════════════════════════════════════════════════════════════════════════

/-- Whether a directive holds at all times, and not only within an activity or for some values. -/
def isStatic (directive : Directive) : Bool :=
  directive.span.isNone && directive.field.all fun field => field.value.isNone

/-- Whether a directive speaks of an event. No event here is logged within an activity. -/
def covers (directive : Directive) (event : Event) : Bool :=
  directive.isStatic && directive.target.toList.isPrefixOf event.target.toList &&
    directive.field.all fun field => ("message" :: event.fields.map Prod.fst).contains field.name

/-- Whether another directive is asked before this one or in place of it: it has the longer target,
    or one as long and a condition on a field, or also the later name of that field. -/
def isAtMostAsSpecificAs (directive other : Directive) : Bool :=
  let length := directive.target.utf8ByteSize
  let otherLength := other.target.utf8ByteSize
  length < otherLength ||
    length == otherLength && directive.field.all fun field =>
      other.field.any fun otherField => field.name ≤ otherField.name

end Directive

end LinkCatalog
