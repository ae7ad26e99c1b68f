import LinkCatalog.Service.Actions

/-!
# Commands

The service as one function: a command comes in, and the program that carries it out answers it,
counts it and logs its failure.

## Main definitions

- `Command` — what a client can ask for
- `Document` — what an answer can carry
- `Command.action` — the action that carries a command out
- `Service.observed` — an action with its counters and the event of its failure
- `Service.handle` — the program that answers a command
-/

namespace LinkCatalog

/-- What a client can ask for. Spaces and identifiers come from the path of the request. -/
inductive Command where
  | create (request : Request) (payload : SingleDocument) (spaceId : Uuid) (identity : Option Uuid)
  | display (request : Request) (spaceId id : Uuid)
  | list (request : Request) (spaceId : Uuid)
  | update (request : Request) (payload : SingleDocument) (spaceId : Uuid) (identity : Option Uuid)
  | delete (spaceId id : Uuid)

/-- What an answer can carry. -/
inductive Document where
  | single (document : SingleDocument)
  | list (document : ListDocument)
deriving DecidableEq

namespace Command

/-- The name of the action in counters and events. -/
def name : Command → String
  | .create .. => Service.createName
  | .display .. => Service.displayName
  | .list .. => Service.listName
  | .update .. => Service.updateName
  | .delete .. => Service.deleteName

/-- The action that carries a command out. -/
def action (settings : Settings) (now : Instant) (fresh : Uuid) :
    Command → Action (Response Document)
  | .create request payload spaceId identity =>
    Response.map .single <$> Service.create settings now fresh request payload spaceId identity
  | .display request spaceId id =>
    Response.map .single <$> Service.display settings request spaceId id
  | .list request spaceId =>
    Response.map .list <$> Service.list settings request spaceId
  | .update request payload spaceId identity =>
    Response.map .single <$> Service.update settings now request payload spaceId identity
  | .delete spaceId id =>
    Response.map .single <$> Service.delete settings spaceId id

end Command

namespace Service

/-- The event of a failed action: a warning if the service is to blame. -/
def failureEvent (name : String) (failure : Failure) : Event :=
  { level := if failure.status.isServerError then .warn else .debug
    target := logTarget
    span := some name
    message :=
      if failure.status.isServerError then "Link type action failed"
      else "Link type action rejected"
    fields := [("action", name), ("error", failure.message)] }

/-- What is counted and logged at the end of an action. -/
def closingSignals (name : String) : Except Failure α → List Signal
  | .ok _ => [.count (.requests name)]
  | .error failure =>
    [.count (.requests name), .count (.errors name failure.status),
      .log (failureEvent name failure)]

/-- An action with its counters and the event of its failure. -/
def observed (name : String) (action : Action α) : Program (Except Failure α) := do
  let result ← action.run
  (closingSignals name result).forM Program.raise
  return result

/-- The program that answers a command. -/
def handle (settings : Settings) (now : Instant) (fresh : Uuid) (command : Command) :
    Program (Except Failure (Response Document)) :=
  observed command.name (command.action settings now fresh)

end Service

end LinkCatalog
