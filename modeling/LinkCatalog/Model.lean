import LinkCatalog.Failure

/-!
# Link types, categories and spaces

What the catalog keeps: kinds of links between work items, the categories that group them, and the
spaces that own them.

## Main definitions

- `Topology` — the shape of the graph that the links of one type form
- `LinkType`, `Category`, `Space` — the rows of the catalog
- `LinkType.validate` — what every stored link type must satisfy
-/

namespace LinkCatalog

/-- The shape of the graph formed by the links of one type. -/
inductive Topology where
  /-- Any work item can link to any other, in both directions. -/
  | network
  /-- Like a network, but links carry a direction. -/
  | directedNetwork
  /-- Directed and without cycles. -/
  | dependency
  /-- Each work item has at most one parent. -/
  | tree
deriving DecidableEq, Repr

namespace Topology

/-- The name of a topology in documents. -/
def name : Topology → String
  | .network => "network"
  | .directedNetwork => "directed_network"
  | .dependency => "dependency"
  | .tree => "tree"

/-- All topologies. -/
def all : List Topology :=
  [.network, .directedNetwork, .dependency, .tree]

/-- The topology of a name. -/
def ofName? (name : String) : Option Topology :=
  all.find? fun topology => topology.name == name

/-- Reads the name of a topology in a document. -/
def parse (name : String) : Except Failure Topology :=
  match ofName? name with
  | some topology => .ok topology
  | none =>
    .error (.badParameter "data.attributes.topology" name
      "one of network, directed_network, dependency, tree")

theorem ofName?_name (topology : Topology) : ofName? topology.name = some topology := by
  cases topology <;> decide

end Topology

/-- A kind of link between two work items. -/
structure LinkType where
  id : Uuid
  name : String
  description : Option String
  /-- Raised by every save; a save must name the version that it replaces. -/
  version : Int32
  createdAt : Instant
  updatedAt : Instant
  /-- Label read from source to target, such as "blocks". -/
  forwardName : String
  /-- Label read from target to source, such as "blocked by". -/
  reverseName : String
  topology : Topology
  categoryId : Uuid
  spaceId : Uuid
deriving DecidableEq

/-- A grouping of link types. -/
structure Category where
  id : Uuid
  name : String
  description : Option String
  version : Int32
  createdAt : Instant
  updatedAt : Instant
deriving DecidableEq

/-- An owner of link types. -/
structure Space where
  id : Uuid
  name : String
  description : Option String
  ownerId : Uuid
  version : Int32
  createdAt : Instant
  updatedAt : Instant
deriving DecidableEq

namespace LinkType

/-- Refuses a link type whose name, forward name or reverse name is empty. -/
def validate (linkType : LinkType) : Except Failure Unit :=
  if linkType.name = "" then .error (.emptyText "data.attributes.name")
  else if linkType.forwardName = "" then .error (.emptyText "data.attributes.forward_name")
  else if linkType.reverseName = "" then .error (.emptyText "data.attributes.reverse_name")
  else .ok ()

theorem validate_eq_ok_iff (linkType : LinkType) :
    linkType.validate = .ok () ↔
      linkType.name ≠ "" ∧ linkType.forwardName ≠ "" ∧ linkType.reverseName ≠ "" := by
  unfold validate
  split
  · simp_all
  · split
    · simp_all
    · split <;> simp_all

end LinkType

end LinkCatalog
