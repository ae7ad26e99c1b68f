import LinkCatalog.Catalog.Program
import LinkCatalog.Http.Validators

/-!
# Conditional answers

A request for link types may say which answer the client has already. If that one is still current,
the new answer has no body, and nothing is looked up for it.

## Main definitions

- `LinkType.stamp` — what the validators of an answer depend on
- `Service.validated` — an answer with its validators
- `Service.conditional` — an answer, or the message that the old one is current
-/

namespace LinkCatalog

/-- What the validators of an answer depend on for a link type. -/
def LinkType.stamp (linkType : LinkType) : Stamp :=
  { key := linkType.id.toText, updatedAt := linkType.updatedAt }

namespace Service

/-- An answer with its validators, or the failure to write them. -/
def validated (status : Status) (validators : Validators) (body : Option α) :
    Except Failure (Response α) :=
  match validators.apply.run.run Headers.empty with
  | (.ok (), headers) => .ok { status, headers, body }
  | (.error failure, _) => .error failure

/-- The answer of an action to a conditional request. That the old answer is current is counted
    even where the new one fails for its validators. -/
def conditional (name : String) (validators : Validators) (request : Request)
    (answer : Action α) : Action (Response α) := do
  if validators.isNotModified request.headers then
    Action.raise (.count (.notModified name))
    liftExcept (validated .notModified validators none)
  else
    let body ← answer
    liftExcept (validated .ok validators (some body))

end Service

end LinkCatalog
