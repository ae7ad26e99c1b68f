import LinkCatalog.Text.Digits

/-!
# Request targets

Identifiers of resources as they stand in requests: a path, an authority alone, or a scheme with an
authority and a path. The characters of each part are checked, but nothing is decoded.

## Main definitions

- `Uri` — the parts of an identifier
- `Uri.Error` — what is wrong with a text
- `Uri.parse` — reads an identifier
- `Uri.toText` — its text, without a fragment
- `Uri.host?`, `Uri.port?` — parts of the authority
-/

namespace LinkCatalog

/-- The parts of an identifier. -/
structure Uri where
  scheme : Option String
  authority : Option String
  /-- The path; empty only if there is an authority and no scheme. -/
  path : String
  query : Option String
deriving DecidableEq, Repr, Inhabited

namespace Uri

/-- What is wrong with the text of an identifier. -/
inductive Error where
  | tooLong
  | empty
  | schemeTooLong
  | invalidFormat
  | invalidAuthority
  | invalidCharacter
deriving DecidableEq, Repr

/-- The wording of an error. -/
def Error.message : Error → String
  | .tooLong => "uri too long"
  | .empty => "empty string"
  | .schemeTooLong => "scheme too long"
  | .invalidFormat => "invalid format"
  | .invalidAuthority => "invalid authority"
  | .invalidCharacter => "invalid uri character"

/-- The greatest number of bytes of an identifier. -/
def maxLength : Nat := 65534

/-- The greatest number of characters of a scheme. -/
def maxSchemeLength : Nat := 64

-- ════════════════════════════════════════════════════════════════════════
-- Scheme
-- ════════════════════════════════════════════════════════════════════════

/-- Whether a character may stand in a scheme. -/
def isSchemeChar (c : Char) : Bool :=
  c.isAlphanum || c == '+' || c == '-' || c == '.' || c == '~'

/-- The scheme in front of `://`, and the text behind it; `none` if the text has no scheme. The
    schemes of the web are put into lower case. -/
def scheme? (cs : List Char) : Except Error (Option (String × List Char)) :=
  let name := cs.takeWhile isSchemeChar
  match cs.dropWhile isSchemeChar with
  | ':' :: '/' :: '/' :: rest =>
    let lower := String.ofList (name.map Char.toLower)
    if lower = "http" ∨ lower = "https" then .ok (some (lower, rest))
    else if name = [] ∧ rest = [] then .ok none
    else if maxSchemeLength < name.length then .error .schemeTooLong
    else .ok (some (String.ofList name, rest))
  | _ => .ok none

-- ════════════════════════════════════════════════════════════════════════
-- Authority
-- ════════════════════════════════════════════════════════════════════════

/-- Whether a character ends an authority. -/
def endsAuthority (c : Char) : Bool :=
  c == '/' || c == '?' || c == '#'

/-- Whether a character without a role of its own may stand in an authority. -/
def isAuthorityChar (c : Char) : Bool :=
  c.isAlphanum || "!$&'()*+,-.;=_~".toList.contains c

/-- What has been seen of an authority. -/
structure AuthorityState where
  /-- Colons since the last bracket or at sign that closed a part. -/
  colons : Nat := 0
  opened : Bool := false
  closed : Bool := false
  /-- Whether a percent sign stands outside the user information and the brackets. -/
  percent : Bool := false
  /-- Whether the last character was an at sign. -/
  afterAt : Bool := false

/-- The state after one more character of an authority. -/
def AuthorityState.step (s : AuthorityState) (c : Char) : Except Error AuthorityState :=
  let s := { s with afterAt := false }
  if c = ':' then
    if 8 ≤ s.colons then .error .invalidAuthority else .ok { s with colons := s.colons + 1 }
  else if c = '[' then
    if s.percent || s.opened then .error .invalidAuthority else .ok { s with opened := true }
  else if c = ']' then
    if !s.opened || s.closed then .error .invalidAuthority
    else .ok { s with closed := true, colons := 0, percent := false }
  else if c = '@' then .ok { s with colons := 0, percent := false, afterAt := true }
  else if c = '%' then .ok { s with percent := true }
  else if isAuthorityChar c then .ok s
  else .error .invalidCharacter

/-- Whether an authority may end in the state. -/
def AuthorityState.isComplete (s : AuthorityState) : Bool :=
  s.opened == s.closed && s.colons ≤ 1 && !s.afterAt && !s.percent

/-- The authority in front of a text, which may be empty, and the text behind it. -/
def splitAuthority (cs : List Char) : Except Error (List Char × List Char) := do
  let authority := cs.takeWhile fun c => !endsAuthority c
  let s ← authority.foldlM AuthorityState.step {}
  if s.isComplete then
    return (authority, cs.dropWhile fun c => !endsAuthority c)
  else
    throw .invalidAuthority

-- ════════════════════════════════════════════════════════════════════════
-- Path and query
-- ════════════════════════════════════════════════════════════════════════

/-- Whether a character may stand in a path. -/
def isPathChar (c : Char) : Bool :=
  let n := c.toNat
  n == 0x21 || (0x24 ≤ n && n ≤ 0x3b) || n == 0x3d || (0x40 ≤ n && n ≤ 0x5f) ||
    (0x61 ≤ n && n ≤ 0x7a) || n == 0x7c || n == 0x7e || c == '"' || c == '\x7b' || c == '\x7d' ||
    0x80 ≤ n

/-- Whether a character may stand in a query. -/
def isQueryChar (c : Char) : Bool :=
  let n := c.toNat
  n == 0x21 || (0x24 ≤ n && n ≤ 0x3b) || n == 0x3d || (0x3f ≤ n && n ≤ 0x7e) || 0x80 ≤ n

/-- The path and the query of a text. A fragment is dropped. -/
def pathAndQuery (cs : List Char) : Except Error (List Char × Option (List Char)) :=
  let path := cs.takeWhile fun c => c != '?' && c != '#'
  if !path.all isPathChar then .error .invalidCharacter
  else
    match cs.dropWhile fun c => c != '?' && c != '#' with
    | '?' :: rest =>
      let query := rest.takeWhile (· != '#')
      if query.all isQueryChar then .ok (path, some query) else .error .invalidCharacter
    | _ => .ok (path, none)

/-- An identifier with the path and the query of a text; an empty path is the root. -/
def withPath (scheme authority : Option String) (cs : List Char) : Except Error Uri := do
  let (path, query) ← pathAndQuery cs
  return { scheme, authority
           path := if path = [] then "/" else String.ofList path
           query := query.map String.ofList }

/-- An identifier that is an authority alone. -/
def ofAuthority (authority : List Char) : Uri :=
  { scheme := none, authority := some (String.ofList authority), path := "", query := none }

/-- Reads a text that is not a path. Without a scheme nothing may follow the authority, and with a
    scheme the authority must not be empty. -/
def parseFull (cs : List Char) : Except Error Uri := do
  match ← scheme? cs with
  | none =>
    let (authority, rest) ← splitAuthority cs
    if rest = [] then return ofAuthority authority else throw .invalidFormat
  | some (scheme, rest) =>
    if rest = [] then throw .empty
    let (authority, rest) ← splitAuthority rest
    if authority = [] then throw .invalidFormat
    withPath (some scheme) (some (String.ofList authority)) rest

/-- Reads an identifier. -/
def parse (text : String) : Except Error Uri :=
  if maxLength < text.utf8ByteSize then .error .tooLong
  else
    match text.toList with
    | [] => .error .empty
    | ['*'] => .ok { scheme := none, authority := none, path := "*", query := none }
    | '/' :: rest => withPath none none ('/' :: rest)
    | [c] => if endsAuthority c then .error .invalidCharacter else parseFull [c]
    | cs => parseFull cs

/-- The text of an identifier. -/
def toText (uri : Uri) : String :=
  (uri.scheme.elim "" (· ++ "://")) ++ uri.authority.getD "" ++ uri.path ++
    (uri.query.elim "" ("?" ++ ·))

/-- What follows the last occurrence of a character; `none` if there is none. -/
def afterLast? (c : Char) (cs : List Char) : Option (List Char) :=
  if cs.contains c then some (cs.reverse.takeWhile (· != c)).reverse else none

/-- The host of the authority; brackets belong to it. -/
def host? (uri : Uri) : Option String :=
  uri.authority.map fun authority =>
    let cs := authority.toList
    let hostPort := (afterLast? '@' cs).getD cs
    match hostPort with
    | '[' :: _ => String.ofList (hostPort.takeWhile (· != ']') ++ [']'])
    | _ => String.ofList (hostPort.takeWhile (· != ':'))

/-- The port of the authority, if what follows its last colon is a number of 16 bits. -/
def port? (uri : Uri) : Option Nat := do
  let authority ← uri.authority
  Digits.unsigned? 65535 (← afterLast? ':' authority.toList)

end Uri

end LinkCatalog
