import LinkCatalog.Document.Basic
import LinkCatalog.Json.Record

/-!
# Documents as JSON

How documents are written and read. Writing leaves out what is missing; reading takes any order of
the fields, ignores unknown ones, and takes an array of the fields in place of an object.

Each type has a pair `toJson` and `ofJson` next to each other, which name the same fields.

## Main definitions

- `SingleDocument.toJson`, `SingleDocument.ofJson`
- `ListDocument.toJson`, `ListDocument.ofJson`
- `ErrorDocument.toJson`, `ErrorDocument.ofJson`
- `Included.toJson`, `Included.ofJson` — resources that are told apart by their `type`
-/

namespace LinkCatalog

open Json (optionalMember)

-- ════════════════════════════════════════════════════════════════════════
-- Links and relationships
-- ════════════════════════════════════════════════════════════════════════

namespace Links

def toJson (links : Links) : Json :=
  .object (optionalMember "self" (links.self.map .string) ++
    optionalMember "related" (links.related.map .string))

def ofJson : Read Links := fun value => do
  let fields ← value.fields ["self", "related"]
  return { self := ← fields.optional "self" Read.string
           related := ← fields.optional "related" Read.string }

end Links

namespace ResourceId

def toJson (resource : ResourceId) : Json :=
  .object (("type", .string resource.type) ::
    optionalMember "id" (resource.id.map fun id => .string id.toText))

def ofJson : Read ResourceId := fun value => do
  let fields ← value.fields ["type", "id"]
  return { type := ← fields.required "type" Read.string
           id := ← fields.optional "id" Read.uuid }

end ResourceId

namespace Relation

def toJson (relation : Relation) : Json :=
  .object (optionalMember "data" (relation.data.map ResourceId.toJson) ++
    optionalMember "links" (relation.links.map Links.toJson))

def ofJson : Read Relation := fun value => do
  let fields ← value.fields ["data", "links"]
  return { data := ← fields.optional "data" ResourceId.ofJson
           links := ← fields.optional "links" Links.ofJson }

end Relation

-- ════════════════════════════════════════════════════════════════════════
-- Link types
-- ════════════════════════════════════════════════════════════════════════

namespace LinkTypeAttributes

def toJson (attributes : LinkTypeAttributes) : Json :=
  .object (optionalMember "name" (attributes.name.map .string) ++
    optionalMember "description" (attributes.description.map .string) ++
    optionalMember "version" (attributes.version.map fun n => .integer n.toInt) ++
    optionalMember "created-at" (attributes.createdAt.map fun t => .string t.toText) ++
    optionalMember "updated-at" (attributes.updatedAt.map fun t => .string t.toText) ++
    optionalMember "forward_name" (attributes.forwardName.map .string) ++
    optionalMember "reverse_name" (attributes.reverseName.map .string) ++
    optionalMember "topology" (attributes.topology.map .string))

def ofJson : Read LinkTypeAttributes := fun value => do
  let fields ← value.fields ["name", "description", "version", "created-at", "updated-at",
    "forward_name", "reverse_name", "topology"]
  return { name := ← fields.optional "name" Read.string
           description := ← fields.optional "description" Read.string
           version := ← fields.optional "version" Read.int32
           createdAt := ← fields.optional "created-at" Read.instant
           updatedAt := ← fields.optional "updated-at" Read.instant
           forwardName := ← fields.optional "forward_name" Read.string
           reverseName := ← fields.optional "reverse_name" Read.string
           topology := ← fields.optional "topology" Read.string }

end LinkTypeAttributes

namespace LinkTypeRelationships

def toJson (relationships : LinkTypeRelationships) : Json :=
  .object (optionalMember "link_category" (relationships.linkCategory.map Relation.toJson) ++
    optionalMember "space" (relationships.space.map Relation.toJson))

def ofJson : Read LinkTypeRelationships := fun value => do
  let fields ← value.fields ["link_category", "space"]
  return { linkCategory := ← fields.optional "link_category" Relation.ofJson
           space := ← fields.optional "space" Relation.ofJson }

end LinkTypeRelationships

namespace LinkTypeData

def toJson (data : LinkTypeData) : Json :=
  .object (("type", .string data.type) ::
    optionalMember "id" (data.id.map fun id => .string id.toText) ++
    optionalMember "attributes" (data.attributes.map LinkTypeAttributes.toJson) ++
    optionalMember "relationships" (data.relationships.map LinkTypeRelationships.toJson) ++
    optionalMember "links" (data.links.map Links.toJson))

def ofJson : Read LinkTypeData := fun value => do
  let fields ← value.fields ["type", "id", "attributes", "relationships", "links"]
  return { type := ← fields.required "type" Read.string
           id := ← fields.optional "id" Read.uuid
           attributes := ← fields.optional "attributes" LinkTypeAttributes.ofJson
           relationships := ← fields.optional "relationships" LinkTypeRelationships.ofJson
           links := ← fields.optional "links" Links.ofJson }

end LinkTypeData

-- ════════════════════════════════════════════════════════════════════════
-- Included resources
-- ════════════════════════════════════════════════════════════════════════

namespace RelatedAttributes

def toJson (attributes : RelatedAttributes) : Json :=
  .object (("name", .string attributes.name) ::
    optionalMember "description" (attributes.description.map .string) ++
    [("version", .integer attributes.version.toInt),
     ("created-at", .string attributes.createdAt.toText),
     ("updated-at", .string attributes.updatedAt.toText)])

def ofJson : Read RelatedAttributes := fun value => do
  let fields ← value.fields ["name", "description", "version", "created-at", "updated-at"]
  return { name := ← fields.required "name" Read.string
           description := ← fields.optional "description" Read.string
           version := ← fields.required "version" Read.int32
           createdAt := ← fields.required "created-at" Read.instant
           updatedAt := ← fields.required "updated-at" Read.instant }

end RelatedAttributes

namespace CategoryData

/-- The members of a category besides its type. -/
def members (data : CategoryData) : Fields :=
  [("id", .string data.id.toText), ("attributes", data.attributes.toJson),
   ("links", data.links.toJson)]

def ofJson : Read CategoryData := fun value => do
  let fields ← value.fields ["id", "attributes", "links"]
  return { id := ← fields.required "id" Read.uuid
           attributes := ← fields.required "attributes" RelatedAttributes.ofJson
           links := ← fields.required "links" Links.ofJson }

end CategoryData

namespace SpaceData

/-- The members of a space besides its type. -/
def members (data : SpaceData) : Fields :=
  [("id", .string data.id.toText), ("attributes", data.attributes.toJson),
   ("relationships", .object [("owned-by", data.ownedBy.toJson)]), ("links", data.links.toJson)]

/-- Reads the relationships of a space, of which there is one. -/
def ownedByOfJson : Read Relation := fun value => do
  let fields ← value.fields ["owned-by"]
  fields.required "owned-by" Relation.ofJson

def ofJson : Read SpaceData := fun value => do
  let fields ← value.fields ["id", "attributes", "relationships", "links"]
  return { id := ← fields.required "id" Read.uuid
           attributes := ← fields.required "attributes" RelatedAttributes.ofJson
           ownedBy := ← fields.required "relationships" ownedByOfJson
           links := ← fields.required "links" Links.ofJson }

end SpaceData

namespace Included

def toJson : Included → Json
  | .category data => .object (("type", .string categoriesType) :: data.members)
  | .space data => .object (("type", .string spacesType) :: data.members)

/-- The type of a tagged value, and the value without it: a member `type` of an object, or the
    first item of an array. -/
def splitType : Json → Except ReadError (String × Json)
  | .object members => do
    let type ← Fields.required members "type" Read.string
    return (type, .object (members.filter fun member => member.1 != "type"))
  | .array (type :: items) => return (← Read.string type, .array items)
  | _ => .error (.missing "type")

/-- Reads a resource. Its type may be its last member, so the value is put aside until it is
    known. -/
def ofJson : Read Included := Read.buffered fun value => do
  let (type, value) ← splitType value
  if type = categoriesType then return .category (← CategoryData.ofJson value)
  else if type = spacesType then return .space (← SpaceData.ofJson value)
  else throw (.mismatch "a known type")

end Included

-- ════════════════════════════════════════════════════════════════════════
-- Documents
-- ════════════════════════════════════════════════════════════════════════

/-- The member of a document for its included resources; an empty list is left out. -/
def includedMember (included : List Included) : Fields :=
  match included with
  | [] => []
  | included => [("included", .array (included.map Included.toJson))]

namespace SingleDocument

def toJson (document : SingleDocument) : Json :=
  .object (optionalMember "data" (document.data.map LinkTypeData.toJson) ++
    includedMember document.included)

def ofJson : Read SingleDocument := fun value => do
  let fields ← value.fields ["data", "included"]
  return { data := ← fields.optional "data" LinkTypeData.ofJson
           included := ← fields.orElse "included" [] (Read.list Included.ofJson) }

end SingleDocument

namespace ListDocument

def toJson (document : ListDocument) : Json :=
  .object (("data", .array (document.data.map LinkTypeData.toJson)) ::
    includedMember document.included ++
    [("meta", .object [("totalCount", .integer document.totalCount.toNat)])])

/-- Reads the number of entries. -/
def totalCountOfJson : Read UInt64 := fun value => do
  let fields ← value.fields ["totalCount"]
  fields.required "totalCount" Read.uint64

def ofJson : Read ListDocument := fun value => do
  let fields ← value.fields ["data", "included", "meta"]
  return { data := ← fields.required "data" (Read.list LinkTypeData.ofJson)
           included := ← fields.orElse "included" [] (Read.list Included.ofJson)
           totalCount := ← fields.required "meta" totalCountOfJson }

end ListDocument

namespace ErrorObject

def toJson (error : ErrorObject) : Json :=
  .object [("status", .string error.status), ("title", .string error.title),
    ("detail", .string error.detail)]

def ofJson : Read ErrorObject := fun value => do
  let fields ← value.fields ["status", "title", "detail"]
  return { status := ← fields.required "status" Read.string
           title := ← fields.required "title" Read.string
           detail := ← fields.required "detail" Read.string }

end ErrorObject

namespace ErrorDocument

def toJson (document : ErrorDocument) : Json :=
  .object [("errors", .array (document.errors.map ErrorObject.toJson))]

def ofJson : Read ErrorDocument := fun value => do
  let fields ← value.fields ["errors"]
  return { errors := ← fields.required "errors" (Read.list ErrorObject.ofJson) }

end ErrorDocument

end LinkCatalog
