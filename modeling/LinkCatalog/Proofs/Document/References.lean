import LinkCatalog.Proofs.Document.Conversion

/-!
# References in documents

A document names a resource by its type and its identifier: as an entry, as what an entry is related
to, as an included resource, or as the owner of one. Each of these places has links next to the
name.

## Main definitions

- `LinkTypeData.relations` — what an entry is related to
- `LinkTypeData.reference`, `Included.reference` — the names of an entry and of an included resource
- `Mention` — a name with the links next to it
- `LinkTypeData.mentions`, `Included.mentions` — all names and links of a resource

## Main statements

- `LinkTypeData.relations_resource` — the entry of a row is related to a category and a space
-/

namespace LinkCatalog

/-- The names of resources of one type. -/
def ResourceId.ofType (type : String) (id : Uuid) : ResourceId :=
  { type, id := some id }

theorem ResourceId.ofType_injective (type : String) : Function.Injective (ofType type) := by
  intro a b h
  simpa [ofType] using h

/-- The name of an entry. -/
def LinkTypeData.reference (data : LinkTypeData) : ResourceId :=
  { type := data.type, id := data.id }

/-- The relationships of an entry. -/
def LinkTypeData.relations (data : LinkTypeData) : List Relation :=
  match data.relationships with
  | some relationships => relationships.linkCategory.toList ++ relationships.space.toList
  | none => []

/-- The name of an included resource. -/
def Included.reference : Included → ResourceId
  | .category data => { type := categoriesType, id := some data.id }
  | .space data => { type := spacesType, id := some data.id }

/-- A place in a document that may name a resource and may have links to it. -/
structure Mention where
  resource : Option ResourceId
  links : Option Links
deriving DecidableEq

/-- The addresses that stand in the links. -/
def Mention.addresses (mention : Mention) : List String :=
  mention.links.toList.flatMap fun links => links.self.toList ++ links.related.toList

/-- The mention of the other resource in a relationship. -/
def Relation.mention (relation : Relation) : Mention :=
  { resource := relation.data, links := relation.links }

/-- An entry mentions itself, and what it is related to. -/
def LinkTypeData.mentions (data : LinkTypeData) : List Mention :=
  { resource := some data.reference, links := data.links } :: data.relations.map Relation.mention

/-- A category mentions itself, and a space its owner as well. -/
def Included.mentions (resource : Included) : List Mention :=
  match resource with
  | .category data => [{ resource := some resource.reference, links := some data.links }]
  | .space data =>
    [{ resource := some resource.reference, links := some data.links }, data.ownedBy.mention]

variable {request : Request}

theorem LinkTypeData.relations_resource {spaceId : Uuid} {row : LinkType} :
    (row.resource request spaceId).relations =
      [.ofResource categoriesType row.categoryId
          (request.absolute (Href.category row.categoryId)),
        .ofResource spacesType row.spaceId (request.absolute (Href.space row.spaceId))] := rfl

@[simp] theorem Included.reference_ofCategory {category : Category} :
    (ofCategory request category).reference = { type := categoriesType, id := some category.id } :=
  rfl

@[simp] theorem Included.reference_ofSpace {space : Space} :
    (ofSpace request space).reference = { type := spacesType, id := some space.id } := rfl

end LinkCatalog
