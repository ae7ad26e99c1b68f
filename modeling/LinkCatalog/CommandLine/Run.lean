import LinkCatalog.Cluster.Rollout
import LinkCatalog.CommandLine.Arguments
import LinkCatalog.Log.Filter
import LinkCatalog.Log.Line

/-!
# Runs of the command line

A run reads its arguments, logs what it does, asks the cluster and prints the answer. What it writes
is a value here; the clock is read by whoever writes it out.

## Main definitions

- `Line` — a line of the output or of the log
- `Run` — what a run leaves behind
- `CommandLine.run` — a run with some arguments in an environment
-/

namespace LinkCatalog

/-- A line of the output or of the log. -/
inductive Line where
  | output (text : String)
  | log (event : Event)
deriving DecidableEq, Repr

/-- What a run leaves behind. -/
structure Run where
  exitCode : Nat
  lines : List Line
  /-- What is wrong, for the eyes of the user: what was left out of the filter of the log, and why
      the run failed. -/
  complaints : List String
deriving DecidableEq, Repr

namespace CommandLine

/-- The parts of the program that events come from. -/
def mainTarget : String := "wit_kube"
@[inherit_doc mainTarget]
def clientTarget : String := "wit_kube::client"

/-- Lines written so far, around a step that may fail. -/
abbrev Writing := ExceptT ClusterError (StateM (List Line))

/-- Writes a line. -/
def write (line : Line) : Writing Unit :=
  modify fun lines => lines ++ [line]

/-- The event that names the cluster of a run. -/
def usingCluster (config : ClusterConfig) : Event :=
  { level := .info
    target := mainTarget
    message := "Using cluster"
    fields := [("cluster", config.clusterUrl), ("namespace", config.namespaceName)] }

/-- The event of a new client. -/
def clientCreated (client : KubernetesClient) : Event :=
  { level := .debug
    target := clientTarget
    message := "Kubernetes client created"
    fields := [("cluster", client.clusterUri.toText)] }

/-- The event of a deployment config without controllers. -/
def noControllers (deploymentName : String) : Event :=
  { level := .info
    target := mainTarget
    message := "No replication controllers found"
    fields := [("deployment_config", deploymentName)] }

/-- The line that names a controller and the version of its deployment. -/
def controllerLine (controller : Controller) : String :=
  controller.metadata.name.getD "" ++ "\t" ++ controller.marker.getD "<unset>"

/-- Carries a task out. -/
def perform (cluster : Cluster) (config : ClusterConfig) : Task → Writing Unit
  | .latestController deploymentName => do
    let client ← liftExcept (KubernetesClient.ofConfig config)
    write (.log (clientCreated client))
    let found ← liftExcept (Id.run (Rollout.mostRecentController (cluster.controllers client)
      config.namespaceName deploymentName))
    match found with
    | some controller => write (.output (controllerLine controller))
    | none => write (.log (noControllers deploymentName))
  | .latestVersion deploymentName => do
    let client : OpenShiftClient := { config }
    let found ← liftExcept (cluster.deploymentConfig client config.namespaceName deploymentName)
    write (.output (toString found.latestVersion.toInt))

/-- Whether a line is written under a filter. -/
def isWritten (filter : LogFilter) : Line → Bool
  | .output _ => true
  | .log event => filter.allows event

/-- The connection and the task that arguments and environment describe. -/
def request? (arguments : List String) (environment : Environment) :
    Option (ClusterConfig × Task) := do
  let arguments ← Arguments.parse? arguments
  return (← arguments.config? environment, arguments.task)

/-- The exit code of a run without a usable client or filter of the log. -/
def abandoned : Nat := 101

/-- The exit code of a run that fails. -/
def exitCode : ClusterError → Nat
  | .unsendableToken => abandoned
  | _ => 1

/-- A run. Arguments that cannot be read are not logged. -/
def run (cluster : Cluster) (arguments : List String) (environment : Environment) : Run :=
  match LogFilter.ofEnvironment? environment with
  | none => { exitCode := abandoned, lines := [], complaints := [Directive.Error.torn.message] }
  | some reading =>
    let notices := reading.rejections.map Rejection.message
    match request? arguments environment with
    | none => { exitCode := 2, lines := [], complaints := notices }
    | some (config, task) =>
      let (result, lines) := (perform cluster config task).run [.log (usingCluster config)]
      let lines := lines.filter (isWritten reading.filter)
      match result with
      | .ok () => { exitCode := 0, lines, complaints := notices }
      | .error error =>
        { exitCode := exitCode error, lines, complaints := notices ++ ["Error: " ++ error.message] }

end CommandLine

end LinkCatalog
