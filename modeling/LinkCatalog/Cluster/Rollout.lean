import LinkCatalog.Cluster.Client
import LinkCatalog.Cluster.DeploymentConfig

/-!
# Rollouts

Each deployment of a deployment config has a replication controller. The controllers carry the name
of the config as a label and the version of the deployment as an annotation.

## Main definitions

- `Controller` — a replication controller
- `Controller.marker` — the version of its deployment
- `Rollout.mostRecentController` — the controller of the latest deployment
- `Cluster` — what answers queries
-/

namespace LinkCatalog

/-- A replication controller. Rollouts look at its metadata only, and hand on the rest as it is. -/
structure Controller where
  metadata : Metadata := {}
  /-- What is to be kept running. -/
  spec : Option Json := none
  /-- What is running. -/
  status : Option Json := none

/-- The annotation that holds the version of a deployment. -/
def Controller.versionKey : String := "openshift.io/deployment-config.latest-version"

/-- The text of the version of a deployment, if one has been recorded yet. -/
def Controller.marker (controller : Controller) : Option String :=
  controller.metadata.annotated? versionKey

/-- Controllers under their names, or the reason why they cannot be had. -/
abbrev Controllers := Except ClusterError (NameMap Controller)

/-- The controllers of a namespace that a label selector picks. -/
abbrev ControllerQuery (m : Type → Type) := (namespaceName selector : String) → m Controllers

/-- What answers queries. -/
structure Cluster where
  controllers : KubernetesClient → ControllerQuery Id
  deploymentConfig : OpenShiftClient → (namespaceName name : String) →
    Except ClusterError DeploymentConfig

/-- A cluster that no query gets through to. -/
def Cluster.unreachable : Cluster :=
  { controllers := fun _ _ _ => .error .kubernetes
    deploymentConfig := fun _ _ _ => .error .openShift }

namespace Rollout

/-- The label that holds the name of a deployment config. -/
def nameLabel : String := "openshift.io/deployment-config.name"

/-- The selector of the controllers of a deployment config. -/
def selector (deploymentName : String) : String :=
  nameLabel ++ "=" ++ deploymentName

/-- The most recent of some controllers. -/
def choose (controllers : Controllers) : Except ClusterError (Option Controller) := do
  let found ← controllers
  (mostRecent Controller.marker found.entries).mapError .malformedVersion

/-- The controller of the latest deployment of a deployment config. -/
def mostRecentController [Monad m] (query : ControllerQuery m)
    (namespaceName deploymentName : String) : m (Except ClusterError (Option Controller)) := do
  let controllers ← query namespaceName (selector deploymentName)
  return choose controllers

end Rollout

end LinkCatalog
