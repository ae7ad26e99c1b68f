import LinkCatalog.Json.Text
import LinkCatalog.Settings
import LinkCatalog.Telemetry

/-!
# Lines of the log

An event is written as a line of text or as a JSON object, by the choice of the environment.

## Main definitions

- `LogConfig` — the chosen format
- `Event.toText`, `Event.toJson` — an event in the two formats
-/

namespace LinkCatalog

/-- How events are written. -/
structure LogConfig where
  /-- The name of the format; every name but `json` stands for text. -/
  format : String := "text"
deriving DecidableEq, Repr

namespace LogConfig

/-- The format that the environment chooses. -/
def ofEnvironment (environment : Environment) : LogConfig :=
  let defaults : LogConfig := {}
  { format := (environment.text? "LOG_FORMAT").getD defaults.format }

/-- Whether events are written as JSON. -/
def isJson (config : LogConfig) : Bool :=
  config.format.toLower == "json"

end LogConfig

namespace Event

/-- An event as text: its time, its level in five places, where it comes from, what it says, and its
    fields. -/
def toText (time : String) (event : Event) : String :=
  let level := event.level.name
  let indent := String.ofList (List.replicate (5 - level.length) ' ')
  let fields := event.fields.map fun (name, value) => " " ++ name ++ "=" ++ value
  time ++ " " ++ indent ++ level ++ " " ++ event.target ++ ": " ++ event.message ++
    String.join fields

/-- An event as a JSON object. -/
def toJson (time : String) (event : Event) : Json :=
  let fields := event.fields.map fun (name, value) => (name, Json.string value)
  .object [("timestamp", .string time),
    ("level", .string event.level.name),
    ("fields", .object (("message", .string event.message) :: fields)),
    ("target", .string event.target)]

end Event

end LinkCatalog
