import LinkCatalog.Cluster.Metadata.Json

/-!
# Deployment configs

A deployment config as far as rollouts are concerned: its metadata, and the version of the
deployment that was started last.

## Main definitions

- `DeploymentConfig` — the object
- `DeploymentConfig.toJson`, `DeploymentConfig.ofJson` — as JSON
-/

namespace LinkCatalog

/-- A deployment config as far as rollouts are concerned. -/
structure DeploymentConfig where
  metadata : Metadata := {}
  /-- The version of the deployment that was started last; 0 before the first one. -/
  latestVersion : Int64 := 0

namespace DeploymentConfig

def toJson (config : DeploymentConfig) : Json :=
  .object [("metadata", config.metadata.toJson),
    ("status", .object [("latestVersion", .integer config.latestVersion.toInt)])]

/-- Reads the version in the status of a deployment config. -/
def statusOfJson : Read Int64 := fun value => do
  let fields ← value.fields ["latestVersion"]
  fields.orElse "latestVersion" 0 Read.int64

def ofJson : Read DeploymentConfig := fun value => do
  let fields ← value.fields ["metadata", "status"]
  return { metadata := ← fields.orElse "metadata" {} Metadata.ofJson
           latestVersion := ← fields.orElse "status" 0 statusOfJson }

end DeploymentConfig

end LinkCatalog
