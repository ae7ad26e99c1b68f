import LinkCatalog.Cluster.Metadata
import LinkCatalog.Json.Record

/-!
# Metadata as JSON

Metadata is always an object. A part that is null counts as not set, the last one of a repeated part
counts, and only parts that are set are written. Times are written in whole seconds.

## Main definitions

- `Metadata.toJson`, `Metadata.ofJson`
-/

namespace LinkCatalog

namespace Json

/-- A string that may be missing, as a member of an object. -/
def optionalText (name : String) (text : Option String) : List (String × Json) :=
  optionalMember name (text.map .string)

/-- A time that may be missing, in whole seconds, as a member of an object. -/
def optionalTime (name : String) (time : Option Instant) : List (String × Json) :=
  optionalMember name (time.map fun time => .string time.wholeSecond.toText)

/-- An object with strings as members. -/
def ofTextMap (map : NameMap String) : Json :=
  .object (map.entries.map fun (name, text) => (name, .string text))

end Json

/-- Reads any value. -/
def Read.any : Read Json :=
  Read.buffered .ok

namespace OwnerReference

def toJson (owner : OwnerReference) : Json :=
  .object ([("apiVersion", .string owner.apiVersion)] ++
    Json.optionalMember "blockOwnerDeletion" (owner.blockOwnerDeletion.map .bool) ++
    Json.optionalMember "controller" (owner.controller.map .bool) ++
    [("kind", .string owner.kind), ("name", .string owner.name), ("uid", .string owner.uid)])

/-- Reads a reference; texts that are not set are empty. -/
def ofJson : Read OwnerReference := fun value => do
  let fields ← Read.members value
  return { apiVersion := (← fields.last "apiVersion" Read.string).getD ""
           blockOwnerDeletion := ← fields.last "blockOwnerDeletion" Read.bool
           controller := ← fields.last "controller" Read.bool
           kind := (← fields.last "kind" Read.string).getD ""
           name := (← fields.last "name" Read.string).getD ""
           uid := (← fields.last "uid" Read.string).getD "" }

end OwnerReference

namespace ManagedField

def toJson (managed : ManagedField) : Json :=
  .object (Json.optionalText "apiVersion" managed.apiVersion ++
    Json.optionalText "fieldsType" managed.fieldsType ++
    Json.optionalMember "fieldsV1" managed.fieldsV1 ++
    Json.optionalText "manager" managed.manager ++
    Json.optionalText "operation" managed.operation ++
    Json.optionalText "subresource" managed.subresource ++
    Json.optionalTime "time" managed.time)

def ofJson : Read ManagedField := fun value => do
  let fields ← Read.members value
  return { apiVersion := ← fields.last "apiVersion" Read.string
           fieldsType := ← fields.last "fieldsType" Read.string
           fieldsV1 := ← fields.last "fieldsV1" Read.any
           manager := ← fields.last "manager" Read.string
           operation := ← fields.last "operation" Read.string
           subresource := ← fields.last "subresource" Read.string
           time := ← fields.last "time" Read.instant }

end ManagedField

namespace Metadata

def toJson (metadata : Metadata) : Json :=
  .object (Json.optionalMember "annotations" (metadata.annotations.map .ofTextMap) ++
    Json.optionalTime "creationTimestamp" metadata.creationTimestamp ++
    Json.optionalMember "deletionGracePeriodSeconds"
      (metadata.deletionGracePeriodSeconds.map fun n => .integer n.toInt) ++
    Json.optionalTime "deletionTimestamp" metadata.deletionTimestamp ++
    Json.optionalMember "finalizers"
      (metadata.finalizers.map fun texts => .array (texts.map .string)) ++
    Json.optionalText "generateName" metadata.generateName ++
    Json.optionalMember "generation" (metadata.generation.map fun n => .integer n.toInt) ++
    Json.optionalMember "labels" (metadata.labels.map .ofTextMap) ++
    Json.optionalMember "managedFields"
      (metadata.managedFields.map fun managed => .array (managed.map ManagedField.toJson)) ++
    Json.optionalText "name" metadata.name ++
    Json.optionalText "namespace" metadata.namespaceName ++
    Json.optionalMember "ownerReferences"
      (metadata.ownerReferences.map fun owners => .array (owners.map OwnerReference.toJson)) ++
    Json.optionalText "resourceVersion" metadata.resourceVersion ++
    Json.optionalText "selfLink" metadata.selfLink ++
    Json.optionalText "uid" metadata.uid)

def ofJson : Read Metadata := fun value => do
  let fields ← Read.members value
  return { annotations := ← fields.last "annotations" (Read.map Read.string)
           creationTimestamp := ← fields.last "creationTimestamp" Read.instant
           deletionGracePeriodSeconds := ← fields.last "deletionGracePeriodSeconds" Read.int64
           deletionTimestamp := ← fields.last "deletionTimestamp" Read.instant
           finalizers := ← fields.last "finalizers" (Read.list Read.string)
           generateName := ← fields.last "generateName" Read.string
           generation := ← fields.last "generation" Read.int64
           labels := ← fields.last "labels" (Read.map Read.string)
           managedFields := ← fields.last "managedFields" (Read.list ManagedField.ofJson)
           name := ← fields.last "name" Read.string
           namespaceName := ← fields.last "namespace" Read.string
           ownerReferences := ← fields.last "ownerReferences" (Read.list OwnerReference.ofJson)
           resourceVersion := ← fields.last "resourceVersion" Read.string
           selfLink := ← fields.last "selfLink" Read.string
           uid := ← fields.last "uid" Read.string }

end Metadata

end LinkCatalog
