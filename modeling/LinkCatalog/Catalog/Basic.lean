import LinkCatalog.Catalog.Table
import LinkCatalog.Model

/-!
# The catalog

Three tables of rows, and the operations on them. Link types are created, saved and deleted under
rules; categories and spaces are only looked up.

An operation that writes takes the time of the write, and creation takes the identifier for rows
that come without one, so that every operation is a function of its arguments.

## Main definitions

- `Catalog` — the tables
- `Catalog.createLinkType`, `Catalog.saveLinkType`, `Catalog.deleteLinkType` — the writes
- `Catalog.loadLinkType`, `Catalog.linkTypesOf`, `Catalog.loadCategory`, `Catalog.loadSpace` — the
  reads
-/

namespace LinkCatalog

instance : Identified LinkType := ⟨LinkType.id⟩
instance : Identified Category := ⟨Category.id⟩
instance : Identified Space := ⟨Space.id⟩

/-- Everything that is stored. -/
structure Catalog where
  linkTypes : Table LinkType := Table.empty
  categories : Table Category := Table.empty
  spaces : Table Space := Table.empty

/-- The order of link types in lists: by name, then by identifier. -/
def LinkType.le (a b : LinkType) : Bool :=
  decide (a.name < b.name) || (a.name == b.name && a.id.le b.id)

namespace Catalog

/-- A catalog without rows. -/
def empty : Catalog := {}

-- ════════════════════════════════════════════════════════════════════════
-- Reads
-- ════════════════════════════════════════════════════════════════════════

/-- A row that was looked for, or the failure that says it is missing. -/
def foundOr (entity : Entity) (id : Uuid) (row : Option α) : Except Failure α :=
  match row with
  | some row => .ok row
  | none => .error (.notFound entity id.toText)

/-- The link type with an identifier. -/
def loadLinkType (catalog : Catalog) (id : Uuid) : Except Failure LinkType :=
  foundOr .linkType id (catalog.linkTypes.find? id)

/-- The link types of a space in order. -/
def linkTypesOf (catalog : Catalog) (spaceId : Uuid) : List LinkType :=
  (catalog.linkTypes.rows.filter fun row => row.spaceId == spaceId).mergeSort LinkType.le

/-- The category with an identifier. -/
def loadCategory (catalog : Catalog) (id : Uuid) : Except Failure Category :=
  foundOr .category id (catalog.categories.find? id)

/-- The space with an identifier. -/
def loadSpace (catalog : Catalog) (id : Uuid) : Except Failure Space :=
  foundOr .space id (catalog.spaces.find? id)

-- ════════════════════════════════════════════════════════════════════════
-- Writes
-- ════════════════════════════════════════════════════════════════════════

/-- Whether another link type of the same space has the name of the given one. -/
def isNameTaken (catalog : Catalog) (row : LinkType) : Bool :=
  catalog.linkTypes.rows.any fun other =>
    other.id != row.id && other.spaceId == row.spaceId && other.name == row.name

/-- Refuses a link type whose name is taken in its space. -/
def checkName (catalog : Catalog) (row : LinkType) : Except Failure Unit :=
  if catalog.isNameTaken row then
    .error (.dataConflict (Entity.linkType.name ++ " named '" ++ row.name ++
      "' already exists in space " ++ row.spaceId.toText))
  else
    .ok ()

/-- The catalog with a link type in place of any other with its identifier. -/
def putLinkType (catalog : Catalog) (row : LinkType) : Catalog :=
  { catalog with linkTypes := catalog.linkTypes.put row }

/-- The catalog with a category in place of any other with its identifier. -/
def putCategory (catalog : Catalog) (row : Category) : Catalog :=
  { catalog with categories := catalog.categories.put row }

/-- The catalog with a space in place of any other with its identifier. -/
def putSpace (catalog : Catalog) (row : Space) : Catalog :=
  { catalog with spaces := catalog.spaces.put row }

/-- Adds a link type at version 0. A row without identifier gets the `fresh` one; an identifier or
    a name that is taken is refused. Returns the stored row with the catalog. -/
def createLinkType (catalog : Catalog) (row : LinkType) (fresh : Uuid) (now : Instant) :
    Except Failure (LinkType × Catalog) := do
  row.validate
  let row := { row with id := if row.id = .nil then fresh else row.id }
  if (catalog.linkTypes.find? row.id).isSome then
    throw (.dataConflict (Entity.linkType.name ++ " with id '" ++ row.id.toText ++
      "' already exists"))
  catalog.checkName row
  let row := { row with version := 0, createdAt := now, updatedAt := now }
  return (row, catalog.putLinkType row)

/-- Replaces a stored link type. The row must name the stored version, which is raised by one; the
    time of creation is kept. Returns the stored row with the catalog. -/
def saveLinkType (catalog : Catalog) (row : LinkType) (now : Instant) :
    Except Failure (LinkType × Catalog) := do
  row.validate
  let stored ← catalog.loadLinkType row.id
  if stored.version ≠ row.version then
    throw (.versionConflict .linkType row.id.toText row.version stored.version)
  catalog.checkName row
  let row := { row with
    version := stored.version + 1, createdAt := stored.createdAt, updatedAt := now }
  return (row, catalog.putLinkType row)

/-- Removes a link type of a space. -/
def deleteLinkType (catalog : Catalog) (spaceId id : Uuid) : Except Failure Catalog :=
  match catalog.linkTypes.find? id with
  | some stored =>
    if stored.spaceId = spaceId then
      .ok { catalog with linkTypes := catalog.linkTypes.erase id }
    else .error (.notFound .linkType id.toText)
  | none => .error (.notFound .linkType id.toText)

end Catalog

end LinkCatalog
