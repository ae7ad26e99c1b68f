import LinkCatalog.Digest.Sha256
import LinkCatalog.Failure
import LinkCatalog.Text.Blank
import LinkCatalog.Time.MailDate

/-!
# Validators of cached answers

An answer carries an entity tag and the time of the latest change, so that a client can ask whether
its copy is still current. The tag is a digest of the identifiers and the times of change of the
entities in the answer, not of their contents.

## Main definitions

- `Stamp` — identifier and time of change of an entity
- `Validators.message` — the bytes that the tag is a digest of
- `Validators.ofStamps` — the validators of an answer
- `Validators.isNotModified` — whether the copy of a client is still current
- `Validators.apply` — writes the validators into the header fields of an answer

## Design notes

The message is kept apart from its digest: that two messages differ is a fact about stamps, that
their digests differ is an assumption about the hash function.
-/

namespace LinkCatalog

/-- What the entity tag of an answer depends on for one entity. -/
structure Stamp where
  key : String
  updatedAt : Instant
deriving DecidableEq

/-- What a client needs to ask for an answer again. -/
structure Validators where
  /-- The entity tag, with its quotes. -/
  etag : String
  /-- The latest change; missing for an answer without entities. -/
  lastModified : Option Instant
  cacheControl : String
deriving DecidableEq

namespace Validators

/-- The eight bytes of a number of microseconds, in two's complement and most significant first. -/
def microBytes (micros : Int) : List UInt8 :=
  Sha256.bigEndian 8 (micros % UInt64.size).toNat

/-- The bytes of one stamp: the key, a hyphen, the microseconds and a line feed. -/
def stampBytes (stamp : Stamp) : List UInt8 :=
  stamp.key.toList.flatMap String.utf8EncodeChar ++ 0x2d :: microBytes stamp.updatedAt.micros ++
    [0x0a]

/-- The bytes of some stamps, one after the other. -/
def message (stamps : List Stamp) : List UInt8 :=
  stamps.flatMap stampBytes

/-- The entity tag of a message: its digest in double quotes. -/
def tagOf (message : List UInt8) : String :=
  String.ofList ('"' :: Sha256.hexDigest message ++ ['"'])

/-- The validators of an answer with the given entities. -/
def ofStamps (stamps : List Stamp) (cacheControl : String) : Validators :=
  { etag := tagOf (message stamps)
    lastModified := Instant.latest? (stamps.map Stamp.updatedAt)
    cacheControl }

/-- A tag without the marks of weak tags in front of it. -/
def withoutWeakMarks : List Char → List Char
  | 'W' :: '/' :: rest => withoutWeakMarks rest
  | tag => tag

/-- Whether one of the tags in a list, separated by commas, is the given one or an asterisk. -/
def matchesAny (etag : String) (tags : List Char) : Bool :=
  (tags.splitOn ',').any fun piece =>
    let tag := withoutWeakMarks (Text.trim piece)
    tag == ['*'] || tag == etag.toList

/-- Whether an answer that was last modified at some time is older than a date, in whole seconds. -/
def unchangedSince (lastModified : Option Instant) (date : List Char) : Bool :=
  match MailDate.read? (String.ofList date), lastModified with
  | some since, some lastModified => lastModified.seconds ≤ since.seconds
  | _, _ => false

/-- Whether the copy of a client is still current. The tags of `If-None-Match` decide where the
    field is present; the date of `If-Modified-Since` is looked at only where it is not. -/
def isNotModified (validators : Validators) (headers : Headers) : Bool :=
  match headers.get? "if-none-match" with
  | some value =>
    match HeaderValue.toText? value with
    | some tags => matchesAny validators.etag tags
    | none => false
  | none =>
    match headers.text? "if-modified-since" with
    | some date => unchangedSince validators.lastModified date
    | none => false

/-- The value of a header field, or the failure of a text that cannot be one. -/
def headerValue (text : String) : Except Failure HeaderValue :=
  match HeaderValue.ofText? text with
  | some value => .ok value
  | none =>
    .error (.internal ("invalid header value " ++ Text.quote text ++ ": " ++
      HeaderValue.malformed))

/-- Sets a header field to a text; the fields stay as they are where the text cannot be a value. -/
def setField (name text : String) : ExceptT Failure (StateM Headers) Unit := do
  let value ← headerValue text
  modify fun headers => headers.insert name value

/-- Writes the validators into header fields. Fields written before a failure stay. -/
def apply (validators : Validators) : ExceptT Failure (StateM Headers) Unit := do
  setField "etag" validators.etag
  match validators.lastModified with
  | some lastModified => setField "last-modified" (MailDate.toText lastModified)
  | none => pure ()
  setField "cache-control" validators.cacheControl

end Validators

end LinkCatalog
