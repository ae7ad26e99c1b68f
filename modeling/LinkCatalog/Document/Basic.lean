import LinkCatalog.Time.Instant
import LinkCatalog.Uuid

/-!
# Documents

What clients and the service exchange. A document carries one link type, or all link types of a
space, together with the categories and spaces that they refer to; or it carries errors.

Clients may leave out most fields of a link type, so these are optional here. Included resources are
written by the service and are complete.

## Main definitions

- `LinkTypeData` — a link type as a resource with attributes, relationships and links
- `Included` — a category or a space attached to a document
- `SingleDocument`, `ListDocument`, `ErrorDocument` — the three kinds of documents
-/

namespace LinkCatalog

/-- The types of resources. -/
def linkTypesType : String := "workitemlinktypes"
@[inherit_doc linkTypesType]
def categoriesType : String := "workitemlinkcategories"
@[inherit_doc linkTypesType]
def spacesType : String := "spaces"
@[inherit_doc linkTypesType]
def identitiesType : String := "identities"

/-- Addresses of a resource. -/
structure Links where
  self : Option String := none
  related : Option String := none
deriving DecidableEq, Repr

/-- The links of a resource that is found at one address. -/
def Links.same (address : String) : Links :=
  { self := some address, related := some address }

/-- A reference to a resource. -/
structure ResourceId where
  type : String
  id : Option Uuid := none
deriving DecidableEq, Repr

/-- A relationship to one resource. -/
structure Relation where
  data : Option ResourceId := none
  links : Option Links := none
deriving DecidableEq, Repr

namespace Relation

/-- The relationship to the resource with the given type and identifier, found at one address. -/
def ofResource (type : String) (id : Uuid) (address : String) : Relation :=
  { data := some { type, id := some id }, links := some (Links.same address) }

/-- The identifier of the resource, if the relationship names one. -/
def id (relation : Relation) : Option Uuid :=
  relation.data.bind ResourceId.id

end Relation

/-- The attributes of a link type. -/
structure LinkTypeAttributes where
  name : Option String := none
  description : Option String := none
  version : Option Int32 := none
  createdAt : Option Instant := none
  updatedAt : Option Instant := none
  forwardName : Option String := none
  reverseName : Option String := none
  topology : Option String := none
deriving DecidableEq

/-- The relationships of a link type. -/
structure LinkTypeRelationships where
  linkCategory : Option Relation := none
  space : Option Relation := none
deriving DecidableEq, Repr

/-- A link type as a resource. -/
structure LinkTypeData where
  type : String
  id : Option Uuid := none
  attributes : Option LinkTypeAttributes := none
  relationships : Option LinkTypeRelationships := none
  links : Option Links := none
deriving DecidableEq

namespace LinkTypeData

/-- The identifier of the category that the link type refers to. -/
def categoryId (data : LinkTypeData) : Option Uuid :=
  (data.relationships.bind (·.linkCategory)).bind Relation.id

/-- The identifier of the space that the link type refers to. -/
def spaceId (data : LinkTypeData) : Option Uuid :=
  (data.relationships.bind (·.space)).bind Relation.id

end LinkTypeData

/-- The attributes of a category or a space. -/
structure RelatedAttributes where
  name : String
  description : Option String
  version : Int32
  createdAt : Instant
  updatedAt : Instant
deriving DecidableEq

/-- A category as a resource. -/
structure CategoryData where
  id : Uuid
  attributes : RelatedAttributes
  links : Links
deriving DecidableEq

/-- A space as a resource. -/
structure SpaceData where
  id : Uuid
  attributes : RelatedAttributes
  /-- The relationship to the identity that owns the space. -/
  ownedBy : Relation
  links : Links
deriving DecidableEq

/-- A resource attached to a document. -/
inductive Included where
  | category (data : CategoryData)
  | space (data : SpaceData)
deriving DecidableEq

/-- A document that carries one link type. -/
structure SingleDocument where
  data : Option LinkTypeData := none
  included : List Included := []
deriving DecidableEq

/-- A document that carries all link types of a space. -/
structure ListDocument where
  data : List LinkTypeData
  included : List Included := []
  totalCount : UInt64
deriving DecidableEq

/-- One error of an error document. -/
structure ErrorObject where
  status : String
  title : String
  detail : String
deriving DecidableEq, Repr

/-- A document that carries errors. -/
structure ErrorDocument where
  errors : List ErrorObject
deriving DecidableEq, Repr

end LinkCatalog
