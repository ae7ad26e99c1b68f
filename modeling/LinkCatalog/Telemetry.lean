import LinkCatalog.Http.Message

/-!
# Telemetry

What an action leaves behind besides its answer: counters that it raises and events that it logs.

## Main definitions

- `Series` — the counters, told apart by name and labels
- `Series.tally` — how often each counter was raised
- `Event` — a line of the log
- `Signal` — a raised counter or an event
-/

namespace LinkCatalog

/-- A counter. -/
inductive Series where
  /-- Handled actions. -/
  | requests (action : String)
  /-- Conditional requests answered without a body. -/
  | notModified (action : String)
  /-- Actions that failed, by status. -/
  | errors (action : String) (status : Status)
deriving DecidableEq, Repr

namespace Series

/-- The name under which a counter is published. -/
def name : Series → String
  | .requests _ => "wit_link_type_requests_total"
  | .notModified _ => "wit_link_type_not_modified_total"
  | .errors .. => "wit_link_type_errors_total"

/-- The labels that tell counters of one name apart. -/
def labels : Series → List (String × String)
  | .requests action | .notModified action => [("action", action)]
  | .errors action status => [("action", action), ("status", status.toText)]

/-- What the counters of a name count. -/
def description : Series → String
  | .requests _ => "Total number of work item link type actions handled"
  | .notModified _ => "Total number of conditional requests answered with 304"
  | .errors .. => "Total number of work item link type actions that failed"

/-- How often each of the raised counters was raised, in the order in which they were first
    raised. -/
def tally (raised : List Series) : List (Series × Nat) :=
  raised.eraseDups.map fun series => (series, raised.count series)

end Series

/-- The severity of an event. -/
inductive Level where
  | error
  | warn
  | info
  | debug
  | trace
deriving DecidableEq, Repr

/-- The name of a severity. -/
def Level.name : Level → String
  | .error => "ERROR"
  | .warn => "WARN"
  | .info => "INFO"
  | .debug => "DEBUG"
  | .trace => "TRACE"

/-- A line of the log. -/
structure Event where
  level : Level
  /-- The part of the program that the event comes from. -/
  target : String
  /-- The action during which it happened, if any. -/
  span : Option String := none
  message : String
  fields : List (String × String) := []
deriving DecidableEq, Repr

/-- What an action leaves behind besides its answer. -/
inductive Signal where
  | count (series : Series)
  | log (event : Event)
deriving DecidableEq, Repr

/-- The counters raised by some signals, in order and with repetitions. -/
def Signal.raised (signals : List Signal) : List Series :=
  signals.filterMap fun
    | .count series => some series
    | .log _ => none

/-- The events among some signals. -/
def Signal.events (signals : List Signal) : List Event :=
  signals.filterMap fun
    | .log event => some event
    | .count _ => none

end LinkCatalog
