import LinkCatalog.Service.Conditional
import LinkCatalog.Service.Related
import LinkCatalog.Settings

/-!
# The actions of the service

Link types are created, shown, listed, updated and deleted in the space that a request names in its
path. Each action writes at most once, and what the answer needs is looked up before the write.

## Main definitions

- `Service.create`, `Service.update`, `Service.delete` — the actions that write
- `Service.display`, `Service.list` — the actions that read

## Design notes

The time of a write and the identifier of a row that comes without one are arguments. A program
uses them at most once.
-/

namespace LinkCatalog.Service

/-- The names of the actions in counters and events. -/
def createName : String := "create"
@[inherit_doc createName]
def displayName : String := "show"
@[inherit_doc createName]
def listName : String := "list"
@[inherit_doc createName]
def updateName : String := "update"
@[inherit_doc createName]
def deleteName : String := "delete"

/-- Where the events of the service come from. -/
def logTarget : String := "link_catalog::service"

-- ════════════════════════════════════════════════════════════════════════
-- Parts of actions
-- ════════════════════════════════════════════════════════════════════════

/-- Refuses to write where the settings forbid it. -/
def checkMutations (settings : Settings) : Action Unit :=
  if settings.mutationsEnabled then pure () else throw .methodNotAllowed

/-- Refuses a client without identity. -/
def checkIdentity (identity : Option Uuid) : Action Unit :=
  match identity with
  | some _ => pure ()
  | none => throw (.unauthorized "missing identity")

/-- Logs what an action has done. -/
def note (action message : String) (fields : List (String × String)) : Action Unit :=
  Action.raise (.log { level := .debug, target := logTarget, span := some action, message, fields })

/-- The failure of an answer whose related resources cannot be had. -/
def notEnriched (what : String) (failure : Failure) : Failure :=
  .internal ("Failed to enrich " ++ what ++ ": " ++ failure.message)

/-- A document with its space replaced by the one of the path, if it has relationships at all. -/
def overrideSpace (request : Request) (spaceId : Uuid) (payload : SingleDocument) :
    SingleDocument :=
  let space := Relation.ofResource spacesType spaceId (request.absolute (Href.space spaceId))
  { payload with
    data := payload.data.map fun data =>
      { data with
        relationships := data.relationships.map fun relationships =>
          { relationships with space := some space } } }

/-- The space of an updated link type: the one of the path, which a document may repeat but not
    change. -/
def updatedSpace (spaceId : Uuid) (named : Option Uuid) : Except Failure Uuid :=
  match named with
  | none => .ok spaceId
  | some named =>
    if named = spaceId then .ok spaceId
    else .error (.badParameter "data.relationships.space" named.toText spaceId.toText)

/-- The address of a new link type as the value of a header field. -/
def locationValue (path : String) : Except Failure HeaderValue :=
  match HeaderValue.ofText? path with
  | some value => .ok value
  | none => .error (.internal HeaderValue.malformed)

-- ════════════════════════════════════════════════════════════════════════
-- Actions
-- ════════════════════════════════════════════════════════════════════════

/-- Creates a link type in a space, whatever space the document names. -/
def create (settings : Settings) (now : Instant) (fresh : Uuid) (request : Request)
    (payload : SingleDocument) (spaceId : Uuid) (identity : Option Uuid) :
    Action (Response SingleDocument) := do
  checkMutations settings
  let row ← liftExcept (overrideSpace request spaceId payload).toLinkType
  let row := { row with spaceId }
  checkIdentity identity
  let included ← relatedOf request row
  let created ← Action.createLinkType row fresh now
  note createName "Created link type" [("id", created.id.toText), ("name", created.name)]
  let document ← liftExcept (withRelated request created.spaceId created included)
  let location ← liftExcept (locationValue (Href.linkType created.spaceId created.id))
  return { status := .created
           headers := Headers.empty.insert "location" location
           body := some document }

/-- Shows a link type, under the space of the request. -/
def display (settings : Settings) (request : Request) (spaceId id : Uuid) :
    Action (Response SingleDocument) := do
  let row ← Action.loadLinkType id
  let validators := Validators.ofStamps [row.stamp] settings.singleCacheControl
  conditional displayName validators request
    ((enrichSingle request spaceId (.ofLinkType request row)).mapFailure
      (notEnriched "link type"))

/-- Lists the link types of a space. -/
def list (settings : Settings) (request : Request) (spaceId : Uuid) :
    Action (Response ListDocument) := do
  let rows ← Action.linkTypesOf spaceId
  let validators := Validators.ofStamps (rows.map LinkType.stamp) settings.listCacheControl
  conditional listName validators request
    ((enrichList request spaceId (.ofLinkTypes request rows)).mapFailure
      (notEnriched "link types"))

/-- Replaces a link type. The document must name it, and the version that it replaces. -/
def update (settings : Settings) (now : Instant) (request : Request) (payload : SingleDocument)
    (spaceId : Uuid) (identity : Option Uuid) : Action (Response SingleDocument) := do
  checkMutations settings
  checkIdentity identity
  let _ ← liftExcept (requirePart "data.id" (payload.data.bind LinkTypeData.id))
  let row ← liftExcept payload.toLinkType
  let rowSpace ← liftExcept (updatedSpace spaceId (payload.data.bind LinkTypeData.spaceId))
  let row := { row with spaceId := rowSpace }
  let included ← relatedOf request row
  let saved ← Action.saveLinkType row now
  note updateName "Updated link type"
    [("id", saved.id.toText), ("version", toString saved.version.toInt)]
  let document ← liftExcept (withRelated request spaceId saved included)
  return { status := .ok, headers := Headers.empty, body := some document }

/-- Deletes a link type of a space. -/
def delete (settings : Settings) (spaceId id : Uuid) : Action (Response SingleDocument) := do
  checkMutations settings
  Action.deleteLinkType spaceId id
  note deleteName "Deleted link type" [("id", id.toText)]
  return { status := .ok, headers := Headers.empty, body := none }

end LinkCatalog.Service
