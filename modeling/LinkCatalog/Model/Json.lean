import LinkCatalog.Json.Record
import LinkCatalog.Model

/-!
# Rows as JSON

How link types, categories and spaces are written and read when they are stored or passed on as
they are, without links. All fields are written; a missing description is null.

## Main definitions

- `LinkType.toJson`, `LinkType.ofJson`
- `Category.toJson`, `Category.ofJson`
- `Space.toJson`, `Space.ofJson`
-/

namespace LinkCatalog

namespace Topology

def toJson (topology : Topology) : Json :=
  .string topology.name

/-- Reads a name, or an object whose only member has the name and the value null. -/
def ofJson : Read Topology
  | .string name | .object [(name, .null)] =>
    match ofName? name with
    | some topology => .ok topology
    | none => .error (.mismatch "a topology")
  | _ => .error (.mismatch "a topology")

end Topology

namespace LinkType

def toJson (linkType : LinkType) : Json :=
  .object [("id", .string linkType.id.toText),
    ("name", .string linkType.name),
    ("description", .orNull (linkType.description.map .string)),
    ("version", .integer linkType.version.toInt),
    ("created_at", .string linkType.createdAt.toText),
    ("updated_at", .string linkType.updatedAt.toText),
    ("forward_name", .string linkType.forwardName),
    ("reverse_name", .string linkType.reverseName),
    ("topology", linkType.topology.toJson),
    ("link_category_id", .string linkType.categoryId.toText),
    ("space_id", .string linkType.spaceId.toText)]

def ofJson : Read LinkType := fun value => do
  let fields ← value.fields ["id", "name", "description", "version", "created_at", "updated_at",
    "forward_name", "reverse_name", "topology", "link_category_id", "space_id"]
  return { id := ← fields.required "id" Read.uuid
           name := ← fields.required "name" Read.string
           description := ← fields.optional "description" Read.string
           version := ← fields.required "version" Read.int32
           createdAt := ← fields.required "created_at" Read.instant
           updatedAt := ← fields.required "updated_at" Read.instant
           forwardName := ← fields.required "forward_name" Read.string
           reverseName := ← fields.required "reverse_name" Read.string
           topology := ← fields.required "topology" Topology.ofJson
           categoryId := ← fields.required "link_category_id" Read.uuid
           spaceId := ← fields.required "space_id" Read.uuid }

end LinkType

namespace Category

def toJson (category : Category) : Json :=
  .object [("id", .string category.id.toText),
    ("name", .string category.name),
    ("description", .orNull (category.description.map .string)),
    ("version", .integer category.version.toInt),
    ("created_at", .string category.createdAt.toText),
    ("updated_at", .string category.updatedAt.toText)]

def ofJson : Read Category := fun value => do
  let fields ← value.fields ["id", "name", "description", "version", "created_at", "updated_at"]
  return { id := ← fields.required "id" Read.uuid
           name := ← fields.required "name" Read.string
           description := ← fields.optional "description" Read.string
           version := ← fields.required "version" Read.int32
           createdAt := ← fields.required "created_at" Read.instant
           updatedAt := ← fields.required "updated_at" Read.instant }

end Category

namespace Space

def toJson (space : Space) : Json :=
  .object [("id", .string space.id.toText),
    ("name", .string space.name),
    ("description", .orNull (space.description.map .string)),
    ("owner_id", .string space.ownerId.toText),
    ("version", .integer space.version.toInt),
    ("created_at", .string space.createdAt.toText),
    ("updated_at", .string space.updatedAt.toText)]

def ofJson : Read Space := fun value => do
  let fields ← value.fields ["id", "name", "description", "owner_id", "version", "created_at",
    "updated_at"]
  return { id := ← fields.required "id" Read.uuid
           name := ← fields.required "name" Read.string
           description := ← fields.optional "description" Read.string
           ownerId := ← fields.required "owner_id" Read.uuid
           version := ← fields.required "version" Read.int32
           createdAt := ← fields.required "created_at" Read.instant
           updatedAt := ← fields.required "updated_at" Read.instant }

end Space

end LinkCatalog
