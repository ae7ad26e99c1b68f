import LinkCatalog.Json.Basic
import LinkCatalog.NameMap
import LinkCatalog.Time.Timestamp
import LinkCatalog.Uuid

/-!
# Reading records

A record is an object with named fields, or an array of its fields in the order in which the record
declares them. Unknown fields are ignored, a known field may not be repeated, and `null` stands for
a missing optional field.

## Main definitions

- `ReadError` — why a value does not fit a type
- `Json.fields` — the fields of a record
- `Fields.find` — a field by its name
- `Fields.required`, `Fields.optional`, `Fields.orElse`, `Fields.last` — the kinds of fields
- `Read.buffered` — values that are looked at in all their parts
- `Read.string`, `Read.int32`, … — readers of single values
-/

namespace LinkCatalog

/-- Why a text or a value does not fit the type it is read into. -/
inductive ReadError where
  /-- The text is no JSON text. -/
  | malformed
  /-- The value is not of the expected kind. -/
  | mismatch (expected : String)
  /-- A field that must be there is missing. -/
  | missing (field : String)
  /-- A field is there more than once. -/
  | repeated (field : String)
deriving DecidableEq, Repr

/-- A reader of values of one type. -/
abbrev Read (α : Type) := Json → Except ReadError α

/-- The fields of a record in the order of the text. -/
abbrev Fields := List (String × Json)

/-- The fields of a record that declares the given names. -/
def Json.fields (names : List String) : Read Fields
  | .object members => .ok members
  | .array items =>
    if items.length ≤ names.length then .ok (names.zip items)
    else .error (.mismatch "fewer fields")
  | _ => .error (.mismatch "a record")

namespace Fields

/-- The value of a field, if it is there; at most once. -/
def find (fields : Fields) (name : String) : Except ReadError (Option Json) :=
  match fields.filter fun field => field.1 == name with
  | [] => .ok none
  | [(_, value)] => .ok (some value)
  | _ => .error (.repeated name)

/-- A field that must be there. -/
def required (fields : Fields) (name : String) (read : Read α) : Except ReadError α := do
  match ← fields.find name with
  | none => .error (.missing name)
  | some value => read value

/-- A field that may be missing or null. -/
def optional (fields : Fields) (name : String) (read : Read α) : Except ReadError (Option α) := do
  match ← fields.find name with
  | none | some .null => return none
  | some value => return some (← read value)

/-- A field that may be missing, but not null. -/
def orElse (fields : Fields) (name : String) (default : α) (read : Read α) :
    Except ReadError α := do
  match ← fields.find name with
  | none => return default
  | some value => read value

end Fields

namespace Read

/-- Reads a value that may be null. -/
def nullable (read : Read α) : Read (Option α)
  | .null => .ok none
  | value => (read value).map some

/-- Reads a value that is put aside as a whole first, so that all its parts must have a reading. -/
def buffered (read : Read α) : Read α := fun value =>
  if value.isReadable then read value else .error (.mismatch "a value with a reading")

/-- Reads an object as its members. -/
def members : Read Fields
  | .object members => .ok members
  | _ => .error (.mismatch "an object")

end Read

namespace Fields

/-- A field that may be missing, null or repeated. All its values must fit, and the last counts. -/
def last (fields : Fields) (name : String) (read : Read α) : Except ReadError (Option α) := do
  let values ← (fields.filter fun field => field.1 == name).mapM fun field =>
    Read.nullable read field.2
  return values.getLast?.join

end Fields

namespace Read

/-- Reads a string. -/
def string : Read String
  | .string text => .ok text
  | _ => .error (.mismatch "a string")

/-- Reads a truth value. -/
def bool : Read Bool
  | .bool value => .ok value
  | _ => .error (.mismatch "a truth value")

/-- Reads an integer within bounds. -/
def integer (least most : Int) : Read Int
  | .integer n =>
    if least ≤ n ∧ n ≤ most then .ok n else .error (.mismatch "an integer within bounds")
  | _ => .error (.mismatch "an integer")

/-- Reads a signed integer of 32 bits. -/
def int32 : Read Int32
  | value => (integer Int32.minValue.toInt Int32.maxValue.toInt value).map Int32.ofInt

/-- Reads a signed integer of 64 bits. -/
def int64 : Read Int64
  | value => (integer Int64.minValue.toInt Int64.maxValue.toInt value).map Int64.ofInt

/-- Reads an unsigned integer of 64 bits. -/
def uint64 : Read UInt64
  | value => (integer 0 (UInt64.size - 1 : Nat) value).map fun n => UInt64.ofNat n.toNat

/-- Reads a string in a format. -/
def format (name : String) (ofText? : String → Option α) : Read α
  | .string text =>
    match ofText? text with
    | some a => .ok a
    | none => .error (.mismatch name)
  | _ => .error (.mismatch "a string")

/-- Reads an identifier. -/
def uuid : Read Uuid :=
  format "an identifier" Uuid.ofText?

/-- Reads a time stamp. -/
def instant : Read Instant :=
  format "a time stamp" Timestamp.read?

/-- Reads an object whose members have values of one type. -/
def map (read : Read α) : Read (NameMap α)
  | .object members => do
    let entries ← members.mapM fun (name, value) => return (name, ← read value)
    return NameMap.ofList entries
  | _ => .error (.mismatch "an object")

/-- Reads an array of values of one type. -/
def list (read : Read α) : Read (List α)
  | .array items => items.mapM read
  | _ => .error (.mismatch "an array")

end Read

end LinkCatalog
