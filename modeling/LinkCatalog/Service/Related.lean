import LinkCatalog.Catalog.Program
import LinkCatalog.Document.Convert

/-!
# Related resources

What an answer has besides the link types themselves: the address of each of them under the space
that a request came through, and the categories and spaces that they refer to, each once.

Answers that read convert the rows first, and find what is related by the references in the
document. Answers that write find it by the row, before the row is written.

## Main definitions

- `Uuid.sortedDistinct` — identifiers in order, each once
- `Service.addLinks` — a link type with its address
- `Service.related`, `Service.relatedOf` — the categories and the spaces of some identifiers, and
  of a row
- `Service.withRelated` — the document of a row with what is related to it
- `Service.enrichSingle`, `Service.enrichList` — documents with what is related to their entries
-/

namespace LinkCatalog

/-- Identifiers in order, each once. -/
def Uuid.sortedDistinct (ids : List Uuid) : List Uuid :=
  ids.eraseDups.mergeSort Uuid.le

namespace Service

-- ════════════════════════════════════════════════════════════════════════
-- Addresses and references
-- ════════════════════════════════════════════════════════════════════════

/-- An identifier that must be there. -/
def relatedId (what : String) (id : Option Uuid) : Except Failure Uuid :=
  match id with
  | some id => .ok id
  | none => .error (.internal (what ++ " has no id"))

/-- A link type with its address under a space. -/
def addLinks (request : Request) (spaceId : Uuid) (data : LinkTypeData) :
    Except Failure LinkTypeData := do
  let id ← relatedId "data.id" data.id
  return { data with links := some (Links.same (request.absolute (Href.linkType spaceId id))) }

/-- A link type with its address, and what it refers to. -/
structure LinkedEntry where
  data : LinkTypeData
  categoryId : Uuid
  spaceId : Uuid

/-- A link type with its address under a space, and with the references that it must have. -/
def linkEntry (request : Request) (spaceId : Uuid) (data : LinkTypeData) :
    Except Failure LinkedEntry := do
  let data ← addLinks request spaceId data
  let categoryId ← relatedId "data.relationships.link_category" data.categoryId
  let relatedSpaceId ← relatedId "data.relationships.space" data.spaceId
  return { data, categoryId, spaceId := relatedSpaceId }

-- ════════════════════════════════════════════════════════════════════════
-- Look-ups
-- ════════════════════════════════════════════════════════════════════════

/-- The categories and then the spaces of some identifiers. The first one that is missing is the
    failure. -/
def related (request : Request) (categoryIds spaceIds : List Uuid) : Action (List Included) := do
  let categories ← categoryIds.mapM Action.loadCategory
  let spaces ← spaceIds.mapM Action.loadSpace
  return categories.map (.ofCategory request) ++ spaces.map (.ofSpace request)

/-- The category and the space that a row refers to. -/
def relatedOf (request : Request) (linkType : LinkType) : Action (List Included) :=
  related request [linkType.categoryId] [linkType.spaceId]

-- ════════════════════════════════════════════════════════════════════════
-- Documents
-- ════════════════════════════════════════════════════════════════════════

/-- The document of a row with its address under a space, and with what is related to it. -/
def withRelated (request : Request) (spaceId : Uuid) (linkType : LinkType)
    (included : List Included) : Except Failure SingleDocument := do
  let document := SingleDocument.ofLinkType request linkType
  let data ← document.data.mapM (addLinks request spaceId)
  return { document with data, included }

/-- A document with the address of its link type, and with what that refers to. -/
def enrichSingle (request : Request) (spaceId : Uuid) (document : SingleDocument) :
    Action SingleDocument := do
  match document.data with
  | none => return document
  | some data =>
    let entry ← liftExcept (linkEntry request spaceId data)
    let included ← related request [entry.categoryId] [entry.spaceId]
    return { data := some entry.data, included := document.included ++ included }

/-- A document with the addresses of its link types, and with all that they refer to. -/
def enrichList (request : Request) (spaceId : Uuid) (document : ListDocument) :
    Action ListDocument := do
  let entries ← liftExcept (document.data.mapM (linkEntry request spaceId))
  let included ← related request (Uuid.sortedDistinct (entries.map LinkedEntry.categoryId))
    (Uuid.sortedDistinct (entries.map LinkedEntry.spaceId))
  return { document with
           data := entries.map LinkedEntry.data
           included := document.included ++ included }

end Service

end LinkCatalog
