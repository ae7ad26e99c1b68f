import LinkCatalog.Uuid

/-!
# Paths of resources

## Main definitions

- `Href.space`, `Href.category`, `Href.linkType`, `Href.identity` — where a resource is found on
  any host of the service
-/

namespace LinkCatalog.Href

/-- The path of a space. -/
def space (id : Uuid) : String :=
  "/api/spaces/" ++ id.toText

/-- The path of a category. -/
def category (id : Uuid) : String :=
  "/api/workitemlinkcategories/" ++ id.toText

/-- The path of a link type, which is found under a space. -/
def linkType (spaceId id : Uuid) : String :=
  "/api/spaces/" ++ spaceId.toText ++ "/workitemlinktypes/" ++ id.toText

/-- The path of an identity. -/
def identity (id : Uuid) : String :=
  "/api/users/" ++ id.toText

end LinkCatalog.Href
