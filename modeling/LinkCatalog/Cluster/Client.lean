import LinkCatalog.Cluster.Config
import LinkCatalog.Cluster.Selection
import LinkCatalog.Http.Headers
import LinkCatalog.Http.Uri

/-!
# Clients of a cluster

A cluster is reached through two interfaces, each with a client of its own. Building a client checks
what the interface needs and sends nothing.

## Main definitions

- `ClusterError` — why a client cannot be built, or a query has no answer
- `KubernetesClient` — the connection to the common interface
- `OpenShiftClient` — the connection to the interface of deployment configs
-/

namespace LinkCatalog

/-- Why a client cannot be built, or a query has no answer. -/
inductive ClusterError where
  | invalidUrl (url : String) (reason : Uri.Error)
  /-- The token cannot stand in a header field. -/
  | unsendableToken
  /-- A query to the common interface failed. -/
  | kubernetes
  /-- A query for a deployment config failed. -/
  | openShift
  | notFound (kind namespaceName name : String)
  | malformedVersion (malformed : MalformedVersion)
deriving DecidableEq, Repr

/-- The wording of an error. -/
def ClusterError.message : ClusterError → String
  | .invalidUrl url reason => "invalid cluster URL " ++ Text.quote url ++ ": " ++ reason.message
  | .unsendableToken => "bearer token cannot be sent"
  | .kubernetes => "Kubernetes error"
  | .openShift => "OpenShift request failed"
  | .notFound kind namespaceName name =>
    kind ++ " " ++ namespaceName ++ "/" ++ name ++ " not found"
  | .malformedVersion malformed => malformed.message

/-- The connection to the common interface of a cluster. -/
structure KubernetesClient where
  clusterUri : Uri
  namespaceName : String
  connectTimeoutSeconds : Nat
  readTimeoutSeconds : Nat
  /-- The token sent with every query, if there is one. -/
  token : Option String
deriving DecidableEq, Repr

/-- Whether a token can be sent with queries. -/
def isSendableToken (token : String) : Bool :=
  (HeaderValue.ofText? ("Bearer " ++ token)).isSome

/-- The client of a configuration, whose address must be a request target and whose token must be
    sendable. -/
def KubernetesClient.ofConfig (config : ClusterConfig) : Except ClusterError KubernetesClient :=
  match Uri.parse config.clusterUrl with
  | .error reason => .error (.invalidUrl config.clusterUrl reason)
  | .ok clusterUri =>
    let token := if config.bearerToken = "" then none else some config.bearerToken
    if token.all isSendableToken then .ok
      { clusterUri
        namespaceName := config.namespaceName
        connectTimeoutSeconds := config.timeoutSeconds
        readTimeoutSeconds := config.timeoutSeconds
        token }
    else .error .unsendableToken

/-- The connection to the interface of deployment configs. Addresses are put together from texts and
    are not looked at before a query is sent. -/
structure OpenShiftClient where
  config : ClusterConfig
deriving DecidableEq, Repr

/-- How long the client waits for an answer. -/
def OpenShiftClient.timeoutSeconds (client : OpenShiftClient) : Nat :=
  client.config.timeoutSeconds

end LinkCatalog
