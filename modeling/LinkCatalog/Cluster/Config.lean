import LinkCatalog.Settings
import LinkCatalog.Text.Digits

/-!
# Connection to a cluster

## Main definitions

- `ClusterConfig` — where a cluster is and how it is talked to
- `ClusterConfig.ofEnvironment` — the defaults with overrides
- `ClusterConfig.baseUrl` — the address that paths are appended to
- `ClusterConfig.deploymentConfigUrl` — the address of a deployment config
-/

namespace LinkCatalog

/-- Where a cluster is and how it is talked to. -/
structure ClusterConfig where
  /-- The address of the cluster. -/
  clusterUrl : String := "https://kubernetes.default.svc"
  /-- The token sent with every query; empty for none. -/
  bearerToken : String := ""
  /-- The namespace of the user. -/
  namespaceName : String := "default"
  /-- How long to wait for a connection and for an answer. -/
  timeoutSeconds : Nat := 30
deriving DecidableEq, Repr

namespace ClusterConfig

/-- The variables that override the defaults. -/
def clusterUrlVariable : String := "KUBE_CLUSTER_URL"
@[inherit_doc clusterUrlVariable]
def bearerTokenVariable : String := "KUBE_BEARER_TOKEN"
@[inherit_doc clusterUrlVariable]
def namespaceVariable : String := "KUBE_NAMESPACE"
@[inherit_doc clusterUrlVariable]
def timeoutVariable : String := "KUBE_TIMEOUT_SECS"

/-- Reads a number of seconds of 64 bits. -/
def seconds? (text : String) : Option Nat :=
  Digits.unsigned? Digits.maxUnsigned64 text.toList

/-- The default connection, overridden by variables. A variable that cannot be read has no
    effect. -/
def ofEnvironment (environment : Environment) : ClusterConfig :=
  let defaults : ClusterConfig := {}
  { clusterUrl := (environment.text? clusterUrlVariable).getD defaults.clusterUrl
    bearerToken := (environment.text? bearerTokenVariable).getD defaults.bearerToken
    namespaceName := (environment.text? namespaceVariable).getD defaults.namespaceName
    timeoutSeconds :=
      ((environment.text? timeoutVariable).bind seconds?).getD defaults.timeoutSeconds }

/-- A text without the slashes at its end. -/
def withoutTrailingSlashes (cs : List Char) : List Char :=
  (cs.reverse.dropWhile (· == '/')).reverse

/-- The address that paths are appended to: that of the cluster without the slashes at its end. -/
def baseUrl (config : ClusterConfig) : String :=
  String.ofList (withoutTrailingSlashes config.clusterUrl.toList)

/-- The address of a deployment config. Names are not escaped. -/
def deploymentConfigUrl (config : ClusterConfig) (namespaceName name : String) : String :=
  config.baseUrl ++ "/apis/apps.openshift.io/v1/namespaces/" ++ namespaceName ++
    "/deploymentconfigs/" ++ name

end ClusterConfig

end LinkCatalog
