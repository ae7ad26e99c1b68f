/-!
# JSON values

The value type of documents. An object keeps its members in the order of the text, repeated names
included, since a document with a repeated field is refused. A number is an integer or is kept as it
was written: no field of a document holds a fraction.

A text may hold values that have no reading: a string with half of a surrogate pair, a number that
is too large, or an array that is nested too deep. They do no harm where nothing looks at them.

## Main definitions

- `Json` — values
- `Json.isReadable` — whether a value has a reading in all its parts
- `Json.optionalMember` — a member that is written only where there is a value
-/

namespace LinkCatalog

/-- A JSON value. -/
inductive Json where
  | null
  | bool (value : Bool)
  /-- A number without fraction and exponent; not a negative zero. -/
  | integer (value : Int)
  /-- Any other number, as written. -/
  | decimal (text : String)
  | string (text : String)
  | array (items : List Json)
  | object (members : List (String × Json))
  /-- A value without a reading, or an object with such a name. -/
  | unreadable
deriving Repr, Inhabited

namespace Json

/-- A member of an object for a value that may be missing. -/
def optionalMember (name : String) (value : Option Json) : List (String × Json) :=
  match value with
  | some value => [(name, value)]
  | none => []

/-- A value that may be missing, or null. -/
def orNull (value : Option Json) : Json :=
  value.getD .null

mutual

/-- Whether a value has a reading in all its parts. -/
def isReadable : Json → Bool
  | .unreadable => false
  | .array items => areReadable items
  | .object members => areMembersReadable members
  | _ => true

/-- Whether all items of an array have a reading. -/
def areReadable : List Json → Bool
  | [] => true
  | item :: items => item.isReadable && areReadable items

/-- Whether all members of an object have a reading. -/
def areMembersReadable : List (String × Json) → Bool
  | [] => true
  | (_, value) :: members => value.isReadable && areMembersReadable members

end

/-- The object with some members, where a name is missing if it has no reading. -/
def ofMembers (members : List (Option String × Json)) : Json :=
  match members.mapM fun (name, value) => name.map fun name => (name, value) with
  | some members => .object members
  | none => .unreadable

end Json

end LinkCatalog
