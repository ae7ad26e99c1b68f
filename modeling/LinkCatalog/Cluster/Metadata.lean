import LinkCatalog.Json.Basic
import LinkCatalog.NameMap
import LinkCatalog.Time.Instant

/-!
# Metadata of cluster objects

What every object of a cluster carries besides its own contents. All parts are optional.

## Main definitions

- `Metadata` — the metadata of an object
- `OwnerReference` — an object that another one belongs to
- `ManagedField` — which part of an object is kept up to date by whom
-/

namespace LinkCatalog

/-- An object that another one belongs to. -/
structure OwnerReference where
  apiVersion : String
  blockOwnerDeletion : Option Bool
  controller : Option Bool
  kind : String
  name : String
  uid : String
deriving DecidableEq, Repr

/-- Which part of an object is kept up to date by whom. -/
structure ManagedField where
  apiVersion : Option String
  fieldsType : Option String
  fieldsV1 : Option Json
  manager : Option String
  operation : Option String
  subresource : Option String
  time : Option Instant

/-- The metadata of an object. -/
structure Metadata where
  annotations : Option (NameMap String) := none
  creationTimestamp : Option Instant := none
  deletionGracePeriodSeconds : Option Int64 := none
  deletionTimestamp : Option Instant := none
  finalizers : Option (List String) := none
  generateName : Option String := none
  generation : Option Int64 := none
  labels : Option (NameMap String) := none
  managedFields : Option (List ManagedField) := none
  name : Option String := none
  namespaceName : Option String := none
  ownerReferences : Option (List OwnerReference) := none
  resourceVersion : Option String := none
  selfLink : Option String := none
  uid : Option String := none

/-- An annotation of an object. -/
def Metadata.annotated? (metadata : Metadata) (name : String) : Option String :=
  metadata.annotations.bind fun annotations => annotations.get? name

end LinkCatalog
