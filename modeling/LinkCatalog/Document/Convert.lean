import LinkCatalog.Document.Href
import LinkCatalog.Model

/-!
# Rows and documents

How rows of the catalog are shown as resources, and how the document of a client becomes a row.

## Main definitions

- `LinkTypeData.ofLinkType`, `Included.ofCategory`, `Included.ofSpace` — rows as resources
- `SingleDocument.ofLinkType`, `ListDocument.ofLinkTypes` — documents without included resources
- `SingleDocument.toLinkType` — the row that a document describes
-/

namespace LinkCatalog

/-- A link type as a resource, without links of its own. -/
def LinkTypeData.ofLinkType (request : Request) (linkType : LinkType) : LinkTypeData :=
  { type := linkTypesType
    id := some linkType.id
    attributes := some
      { name := some linkType.name
        description := linkType.description
        version := some linkType.version
        createdAt := some linkType.createdAt
        updatedAt := some linkType.updatedAt
        forwardName := some linkType.forwardName
        reverseName := some linkType.reverseName
        topology := some linkType.topology.name }
    relationships := some
      { linkCategory := some (.ofResource categoriesType linkType.categoryId
          (request.absolute (Href.category linkType.categoryId)))
        space := some (.ofResource spacesType linkType.spaceId
          (request.absolute (Href.space linkType.spaceId))) } }

/-- A category as an included resource. -/
def Included.ofCategory (request : Request) (category : Category) : Included :=
  .category
    { id := category.id
      attributes :=
        { name := category.name
          description := category.description
          version := category.version
          createdAt := category.createdAt
          updatedAt := category.updatedAt }
      links := Links.same (request.absolute (Href.category category.id)) }

/-- A space as an included resource. -/
def Included.ofSpace (request : Request) (space : Space) : Included :=
  .space
    { id := space.id
      attributes :=
        { name := space.name
          description := space.description
          version := space.version
          createdAt := space.createdAt
          updatedAt := space.updatedAt }
      ownedBy := .ofResource identitiesType space.ownerId
        (request.absolute (Href.identity space.ownerId))
      links := Links.same (request.absolute (Href.space space.id)) }

/-- The document of one link type. -/
def SingleDocument.ofLinkType (request : Request) (linkType : LinkType) : SingleDocument :=
  { data := some (.ofLinkType request linkType) }

/-- The document of some link types. -/
def ListDocument.ofLinkTypes (request : Request) (linkTypes : List LinkType) : ListDocument :=
  { data := linkTypes.map (.ofLinkType request)
    totalCount := UInt64.ofNat linkTypes.length }

/-- A part of a document that must be there. -/
def requirePart (parameter : String) (part : Option α) : Except Failure α :=
  match part with
  | some part => .ok part
  | none => .error (.missingPart parameter)

/-- A name: a missing one is empty, and one that is there must not be. -/
def optionalName (parameter : String) (name : Option String) : Except Failure String :=
  match name with
  | none => .ok ""
  | some name => if name = "" then .error (.emptyText parameter) else .ok name

/-- The row that a document describes. Attributes, relationships and the topology must be there;
    everything else has a default. -/
def SingleDocument.toLinkType (document : SingleDocument) : Except Failure LinkType := do
  let data ← requirePart "data" document.data
  let attributes ← requirePart "data.attributes" data.attributes
  let _ ← requirePart "data.relationships" data.relationships
  let topology ← Topology.parse (← requirePart "data.attributes.topology" attributes.topology)
  let name ← optionalName "data.attributes.name" attributes.name
  let forwardName ← optionalName "data.attributes.forward_name" attributes.forwardName
  let reverseName ← optionalName "data.attributes.reverse_name" attributes.reverseName
  return { id := data.id.getD .nil
           name
           description := attributes.description
           version := attributes.version.getD 0
           createdAt := attributes.createdAt.getD .epoch
           updatedAt := attributes.updatedAt.getD .epoch
           forwardName
           reverseName
           topology
           categoryId := data.categoryId.getD .nil
           spaceId := data.spaceId.getD .nil }

end LinkCatalog
