import LinkCatalog.Json.Basic
import LinkCatalog.Json.Magnitude
import LinkCatalog.Text.Digits

/-!
# The text of JSON values

Writing gives the shortest text: no white space, and escapes only where the format asks for them or,
on request, for everything but ASCII.

Reading goes through tokens. A machine with a stack of the open arrays and objects takes one token
after the other, so its run is a fold over the tokens. Values that are well formed and have no
reading do not stop it.

## Main definitions

- `Json.compact`, `Json.compactAscii` — the text of a value
- `Json.tokens?` — the tokens of a text
- `Json.Machine.step` — what one token does
- `Json.parse?` — the value of a text
-/

namespace LinkCatalog.Json

-- ════════════════════════════════════════════════════════════════════════
-- Writing
-- ════════════════════════════════════════════════════════════════════════

/-- The escape of a unit of 16 bits. -/
def unitEscape (n : Nat) : List Char :=
  '\\' :: 'u' :: Digits.hex 4 n

/-- The characters that stand for `c` in a string: quotes, backslashes and controls are escaped. -/
def escapeControls (c : Char) : List Char :=
  match c with
  | '"' => ['\\', '"']
  | '\\' => ['\\', '\\']
  | '\n' => ['\\', 'n']
  | '\r' => ['\\', 'r']
  | '\t' => ['\\', 't']
  | '\x08' => ['\\', 'b']
  | '\x0c' => ['\\', 'f']
  | c => if c.toNat < 0x20 then unitEscape c.toNat else [c]

/-- As `escapeControls`, and characters beyond ASCII are written as one or two units of 16 bits. -/
def escapeToAscii (c : Char) : List Char :=
  let n := c.toNat
  if n < 0x7f then escapeControls c
  else if n < 0x10000 then unitEscape n
  else unitEscape (0xd800 + (n - 0x10000) / 0x400) ++ unitEscape (0xdc00 + (n - 0x10000) % 0x400)

/-- The characters of a string. -/
def stringChars (escape : Char → List Char) (text : String) : List Char :=
  '"' :: text.toList.flatMap escape ++ ['"']

mutual

/-- The characters of a value. A value without a reading is written as null. -/
def chars (escape : Char → List Char) : Json → List Char
  | .null | .unreadable => "null".toList
  | .bool true => "true".toList
  | .bool false => "false".toList
  | .integer n => (toString n).toList
  | .decimal text => text.toList
  | .string text => stringChars escape text
  | .array items => '[' :: itemChars escape items ++ [']']
  | .object members => '\x7b' :: memberChars escape members ++ ['\x7d']

/-- The characters of the items of an array, separated by commas. -/
def itemChars (escape : Char → List Char) : List Json → List Char
  | [] => []
  | [item] => chars escape item
  | item :: items => chars escape item ++ ',' :: itemChars escape items

/-- The characters of the members of an object, separated by commas. -/
def memberChars (escape : Char → List Char) : List (String × Json) → List Char
  | [] => []
  | [(name, value)] => stringChars escape name ++ ':' :: chars escape value
  | (name, value) :: members =>
    stringChars escape name ++ ':' :: chars escape value ++ ',' :: memberChars escape members

end

/-- The text of a value. -/
def compact (value : Json) : String :=
  String.ofList (value.chars escapeControls)

/-- The text of a value in ASCII. -/
def compactAscii (value : Json) : String :=
  String.ofList (value.chars escapeToAscii)

-- ════════════════════════════════════════════════════════════════════════
-- Tokens
-- ════════════════════════════════════════════════════════════════════════

/-- The pieces of a text. -/
inductive Token where
  | openArray
  | closeArray
  | openObject
  | closeObject
  | comma
  | colon
  /-- A string, if it has a reading. -/
  | string (text : Option String)
  /-- A number, or one of the words. -/
  | scalar (value : Json)

/-- A piece of a string: a character, or a unit of 16 bits given by an escape. -/
inductive Piece where
  | char (c : Char)
  | unit (n : Nat)

/-- What a letter after a backslash stands for. -/
def escapedChar? : Char → Option Char
  | '"' => some '"'
  | '\\' => some '\\'
  | '/' => some '/'
  | 'b' => some '\x08'
  | 'f' => some '\x0c'
  | 'n' => some '\n'
  | 'r' => some '\r'
  | 't' => some '\t'
  | _ => none

/-- The pieces of a string up to its closing quote, and the text behind it. -/
def pieces? : List Char → Option (List Piece × List Char)
  | [] => none
  | '"' :: rest => some ([], rest)
  | '\\' :: 'u' :: a :: b :: c :: d :: rest => do
    let n ← Digits.ofHex? [a, b, c, d]
    let (pieces, rest) ← pieces? rest
    return (.unit n :: pieces, rest)
  | '\\' :: letter :: rest => do
    let c ← escapedChar? letter
    let (pieces, rest) ← pieces? rest
    return (.char c :: pieces, rest)
  | c :: rest =>
    if c.toNat < 0x20 then none
    else do
      let (pieces, rest) ← pieces? rest
      return (.char c :: pieces, rest)

/-- The characters of the pieces of a string. Units of the surrogate range must come in pairs. -/
def joinPieces? : List Piece → Option (List Char)
  | [] => some []
  | .char c :: rest => (joinPieces? rest).map (c :: ·)
  | .unit n :: rest =>
    if n < 0xd800 || 0xe000 ≤ n then (joinPieces? rest).map (Char.ofNat n :: ·)
    else
      match rest with
      | .unit low :: rest =>
        if n < 0xdc00 && 0xdc00 ≤ low && low < 0xe000 then
          (joinPieces? rest).map
            (Char.ofNat (0x10000 + (n - 0xd800) * 0x400 + (low - 0xdc00)) :: ·)
        else none
      | _ => none

/-- The string behind an opening quote, and the text behind the string. The string has a reading if
    its pieces can be joined to characters. -/
def string? (cs : List Char) : Option (Option String × List Char) := do
  let (pieces, rest) ← pieces? cs
  return ((joinPieces? pieces).map String.ofList, rest)

/-- The decimal digits in front of a text, and the text behind them. -/
def spanDigits (cs : List Char) : List Char × List Char :=
  (cs.takeWhile Char.isDigit, cs.dropWhile Char.isDigit)

/-- The fraction in front of a text, if there is one, and the text behind it. -/
def fraction? (cs : List Char) : Option (List Char × List Char) :=
  match cs with
  | '.' :: cs =>
    let (digits, rest) := spanDigits cs
    if digits = [] then none else some ('.' :: digits, rest)
  | _ => some ([], cs)

/-- The exponent in front of a text, if there is one, and the text behind it. -/
def exponent? (cs : List Char) : Option (List Char × List Char) :=
  match cs with
  | c :: cs' =>
    if c = 'e' ∨ c = 'E' then
      let (sign, cs'') := match cs' with
        | '+' :: more => (['+'], more)
        | '-' :: more => (['-'], more)
        | _ => ([], cs')
      let (digits, rest) := spanDigits cs''
      if digits = [] then none else some (c :: sign ++ digits, rest)
    else some ([], cs)
  | [] => some ([], [])

/-- The number that an exponent stands for. -/
def exponentValue (exponent : List Char) : Int :=
  match exponent.drop 1 with
  | '-' :: digits => -(Digits.ofDecimal digits : Int)
  | '+' :: digits | digits => Digits.ofDecimal digits

/-- The value of a number with the given parts. The fraction starts with its point, the exponent
    with its letter; both may be empty. -/
def numberOfParts (sign whole fraction exponent : List Char) : Json :=
  let inRange := (Magnitude.ofDigits whole (fraction.drop 1) (exponentValue exponent)).isInRange
  if fraction = [] ∧ exponent = [] ∧ ¬(sign ≠ [] ∧ whole = ['0']) then
    let n := Digits.ofDecimal whole
    if n < UInt64.size ∨ inRange then .integer (if sign = [] then n else -n) else .unreadable
  else if inRange then .decimal (String.ofList (sign ++ whole ++ fraction ++ exponent))
  else .unreadable

/-- The number in front of a text, and the text behind it. -/
def number? (cs : List Char) : Option (Json × List Char) := do
  let (sign, cs) := match cs with
    | '-' :: rest => (['-'], rest)
    | _ => ([], cs)
  let (whole, cs) := spanDigits cs
  guard (whole ≠ [])
  guard (whole.head? ≠ some '0' ∨ whole.length = 1)
  let (fraction, cs) ← fraction? cs
  let (exponent, cs) ← exponent? cs
  return (numberOfParts sign whole fraction exponent, cs)

/-- The word in front of a text, and the text behind it. -/
def word? : List Char → Option (Json × List Char)
  | 'n' :: 'u' :: 'l' :: 'l' :: rest => some (.null, rest)
  | 't' :: 'r' :: 'u' :: 'e' :: rest => some (.bool true, rest)
  | 'f' :: 'a' :: 'l' :: 's' :: 'e' :: rest => some (.bool false, rest)
  | _ => none

/-- The characters that are tokens by themselves. -/
def mark? : Char → Option Token
  | '[' => some .openArray
  | ']' => some .closeArray
  | '\x7b' => some .openObject
  | '\x7d' => some .closeObject
  | ',' => some .comma
  | ':' => some .colon
  | _ => none

/-- The token in front of a text that does not start with white space, and the text behind it. -/
def token? : List Char → Option (Token × List Char)
  | [] => none
  | c :: cs =>
    match mark? c with
    | some mark => some (mark, cs)
    | none =>
      if c = '"' then (string? cs).map fun (text, rest) => (.string text, rest)
      else if c = '-' ∨ c.isDigit then
        (number? (c :: cs)).map fun (value, rest) => (.scalar value, rest)
      else (word? (c :: cs)).map fun (value, rest) => (.scalar value, rest)

/-- Whether a character is white space between tokens. -/
def isSpace (c : Char) : Bool :=
  c == ' ' || c == '\t' || c == '\n' || c == '\r'

/-- The tokens of a text. The bound on their number is the length of the text, since every token
    takes a character. -/
def tokensUpTo? : Nat → List Char → Option (List Token)
  | bound, cs =>
    match cs.dropWhile isSpace with
    | [] => some []
    | c :: cs =>
      match bound with
      | 0 => none
      | bound + 1 => do
        let (token, rest) ← token? (c :: cs)
        return token :: (← tokensUpTo? bound rest)

/-- The tokens of a text. -/
def tokens? (cs : List Char) : Option (List Token) :=
  tokensUpTo? cs.length cs

-- ════════════════════════════════════════════════════════════════════════
-- Values from tokens
-- ════════════════════════════════════════════════════════════════════════

/-- An open array or object around the place that is read. Items and members are kept last first. -/
inductive Frame where
  | array (before : List Json)
  | object (before : List (Option String × Json)) (name : Option String)

/-- What may come next. -/
inductive Expectation where
  | value
  /-- The first item of the array on top of the stack, or its end. -/
  | itemOrEnd
  /-- The first name of an object, or its end. -/
  | nameOrEnd
  /-- The name that follows a comma, after the given members. -/
  | name (before : List (Option String × Json))
  /-- The colon between a name and its value. -/
  | colon (before : List (Option String × Json)) (name : Option String)
  /-- What follows a value that is complete. -/
  | afterValue (value : Json)

/-- The state of the reader: the open arrays and objects, innermost first, and what comes next. -/
structure Machine where
  stack : List Frame
  next : Expectation

namespace Machine

/-- How many arrays and objects may be open around a place where a value is read. -/
def maxOpen : Nat := 127

/-- The state after an array or an object in the given ones. It has no reading if it is nested too
    deep. -/
def close (stack : List Frame) (value : Json) : Machine :=
  { stack, next := .afterValue (if stack.length < maxOpen then value else .unreadable) }

/-- The state before the first token. -/
def start : Machine :=
  { stack := [], next := .value }

/-- The state after the first token of a value. -/
def beginValue? (stack : List Frame) : Token → Option Machine
  | .scalar value => some { stack, next := .afterValue value }
  | .string text => some { stack, next := .afterValue ((text.map .string).getD .unreadable) }
  | .openArray => some { stack := .array [] :: stack, next := .itemOrEnd }
  | .openObject => some { stack, next := .nameOrEnd }
  | _ => none

/-- The state after a token. -/
def step (machine : Machine) (token : Token) : Option Machine :=
  match machine.next, token, machine.stack with
  | .value, token, stack => beginValue? stack token
  | .itemOrEnd, .closeArray, _ :: stack => some (close stack (.array []))
  | .itemOrEnd, token, stack => beginValue? stack token
  | .nameOrEnd, .closeObject, stack => some (close stack (.object []))
  | .nameOrEnd, .string name, stack => some { stack, next := .colon [] name }
  | .name before, .string name, stack => some { stack, next := .colon before name }
  | .colon before name, .colon, stack =>
    some { stack := .object before name :: stack, next := .value }
  | .afterValue value, .comma, .array before :: stack =>
    some { stack := .array (value :: before) :: stack, next := .value }
  | .afterValue value, .closeArray, .array before :: stack =>
    some (close stack (.array (value :: before).reverse))
  | .afterValue value, .comma, .object before name :: stack =>
    some { stack, next := .name ((name, value) :: before) }
  | .afterValue value, .closeObject, .object before name :: stack =>
    some (close stack (ofMembers ((name, value) :: before).reverse))
  | _, _, _ => none

/-- The value that has been read, if it is complete. -/
def result? (machine : Machine) : Option Json :=
  match machine.stack, machine.next with
  | [], .afterValue value => some value
  | _, _ => none

end Machine

/-- The value of a text, which must be a single value with nothing but white space around it. -/
def parse? (text : String) : Option Json := do
  let tokens ← tokens? text.toList
  let machine ← tokens.foldlM Machine.step Machine.start
  machine.result?

end LinkCatalog.Json
