/-!
# Header fields

The header fields of requests and responses. Names do not depend on case, a name may have several
values, and values are bytes, since not every client sends text.

## Main definitions

- `HeaderValue.ofText?`, `HeaderValue.toText?` — values from text and back
- `Headers` — fields in order
- `Headers.get?` — the first value of a name
- `Headers.append`, `Headers.insert` — one more value, or this value only
-/

namespace LinkCatalog

/-- The value of a header field. -/
abbrev HeaderValue := List UInt8

namespace HeaderValue

/-- Whether a byte may stand in a value. -/
def isAllowed (b : UInt8) : Bool :=
  (0x20 ≤ b && b != 0x7f) || b == 0x09

/-- Whether a byte of a value is visible ASCII, a space or a tab. -/
def isText (b : UInt8) : Bool :=
  (0x20 ≤ b && b < 0x7f) || b == 0x09

/-- The wording for a text that cannot be a value. -/
def malformed : String := "failed to parse header value"

/-- The value that holds a text, if all its bytes may stand in a value. -/
def ofText? (text : String) : Option HeaderValue :=
  let bytes := text.toList.flatMap String.utf8EncodeChar
  if bytes.all isAllowed then some bytes else none

/-- The characters of a value that is visible ASCII throughout. -/
def toText? (value : HeaderValue) : Option (List Char) :=
  if value.all isText then some (value.map fun b => Char.ofNat b.toNat) else none

end HeaderValue

/-- Header fields in order, under names in lower case. -/
structure Headers where
  fields : List (String × HeaderValue)
deriving DecidableEq, Repr, Inhabited

namespace Headers

/-- No fields. -/
def empty : Headers :=
  { fields := [] }

/-- The values of a name in order. -/
def values (headers : Headers) (name : String) : List HeaderValue :=
  (headers.fields.filter fun field => field.1 == name.toLower).map Prod.snd

/-- The first value of a name. -/
def get? (headers : Headers) (name : String) : Option HeaderValue :=
  (headers.values name).head?

/-- The characters of the first value of a name, if it has a value and that is text. -/
def text? (headers : Headers) (name : String) : Option (List Char) :=
  (headers.get? name).bind HeaderValue.toText?

/-- The fields with one more value for a name. -/
def append (headers : Headers) (name : String) (value : HeaderValue) : Headers :=
  { fields := headers.fields ++ [(name.toLower, value)] }

/-- The fields without the values of a name. -/
def erase (headers : Headers) (name : String) : Headers :=
  { fields := headers.fields.filter fun field => field.1 != name.toLower }

/-- The fields with this value for a name, and no other. -/
def insert (headers : Headers) (name : String) (value : HeaderValue) : Headers :=
  (headers.erase name).append name value

/-- The names that have a value, each once, in the order of their first values. -/
def names (headers : Headers) : List String :=
  (headers.fields.map Prod.fst).eraseDups

end Headers

end LinkCatalog
