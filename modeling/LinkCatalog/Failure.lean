import LinkCatalog.Document.Basic
import LinkCatalog.Http.Message
import LinkCatalog.Text.Quoted

/-!
# Failures

Why an action is refused, and how a client is told: a message, a status and an error document.

## Main definitions

- `Entity` — the kinds of things that the catalog holds
- `Failure` — the reasons
- `Failure.message`, `Failure.status`, `Failure.document`
-/

namespace LinkCatalog

/-- The kinds of things that the catalog holds. -/
inductive Entity where
  | linkType
  | category
  | space
deriving DecidableEq, Repr

/-- The name of a kind in messages. -/
def Entity.name : Entity → String
  | .linkType => "work item link type"
  | .category => "work item link category"
  | .space => "space"

/-- Why an action is refused. -/
inductive Failure where
  | badParameter (parameter value expected : String)
  | notFound (entity : Entity) (id : String)
  | unauthorized (detail : String)
  | methodNotAllowed
  /-- The stored version is `actual`, the client's is `expected`. -/
  | versionConflict (entity : Entity) (id : String) (expected actual : Int32)
  | dataConflict (detail : String)
  | internal (detail : String)
deriving DecidableEq, Repr

namespace Failure

/-- A part of a document that must be there is missing. -/
def missingPart (parameter : String) : Failure :=
  .badParameter parameter "<nil>" "not <nil>"

/-- A text that must not be empty is empty. -/
def emptyText (parameter : String) : Failure :=
  .badParameter parameter "" "not empty"

/-- The wording of a failure. -/
def message : Failure → String
  | .badParameter parameter value expected =>
    "bad value for parameter '" ++ parameter ++ "': " ++ Text.quote value ++ " (expected " ++
      expected ++ ")"
  | .notFound entity id => entity.name ++ " with id '" ++ id ++ "' not found"
  | .unauthorized detail => "unauthorized: " ++ detail
  | .methodNotAllowed => "method not allowed"
  | .versionConflict entity id expected actual =>
    "version conflict on " ++ entity.name ++ " '" ++ id ++ "': expected version " ++
      toString expected.toInt ++ ", found " ++ toString actual.toInt
  | .dataConflict detail => "data conflict: " ++ detail
  | .internal detail => "internal error: " ++ detail

/-- The status that a failure is answered with. -/
def status : Failure → Status
  | .badParameter .. => .badRequest
  | .notFound .. => .notFound
  | .unauthorized _ => .unauthorized
  | .methodNotAllowed => .methodNotAllowed
  | .versionConflict .. | .dataConflict _ => .conflict
  | .internal _ => .internalServerError

/-- The document that a failure is answered with. -/
def document (failure : Failure) : ErrorDocument :=
  { errors := [{ status := failure.status.toText
                 title := failure.status.reason
                 detail := failure.message }] }

/-- The answer to a client. -/
def response (failure : Failure) : Response ErrorDocument :=
  { status := failure.status, headers := Headers.empty, body := some failure.document }

end Failure

end LinkCatalog
