import LinkCatalog.Log.Directive
import LinkCatalog.Settings

/-!
# Filters of the log

A filter is a list of directives. Of those that speak of an event the most specific one decides; of
two directives that are equally specific, the later one. What no directive speaks of is not logged.

## Main definitions

- `LogFilter` — directives
- `LogFilter.read?` — reads directives between commas
- `LogFilter.allows` — whether an event is logged
- `Rejection` — a directive that cannot be read
-/

namespace LinkCatalog

/-- The directives of a filter in the order in which they were given. -/
abbrev LogFilter := List Directive

/-- A directive that cannot be read, and why. -/
structure Rejection where
  text : String
  error : Directive.Error
deriving DecidableEq, Repr

/-- The wording of the notice about a directive that cannot be read. -/
def Rejection.message (rejection : Rejection) : String :=
  "ignoring `" ++ rejection.text ++ "`: " ++ rejection.error.message

namespace LogFilter

/-- The filter that is used where no directive can be read. -/
def default : LogFilter :=
  [{ threshold := Level.info.verbosity }]

/-- A filter, and the directives that it could not take. -/
structure Reading where
  filter : LogFilter
  rejections : List Rejection
deriving DecidableEq, Repr

/-- Reads one of the directives of a filter. A torn one spoils the filter. -/
def readDirective? (text : String) : Option (Except Rejection Directive) :=
  match Directive.ofText text with
  | .ok directive => some (.ok directive)
  | .error .torn => none
  | .error error => some (.error { text, error })

/-- The directives that were read, and those that could not be read. -/
def partition : List (Except Rejection Directive) → Reading
  | [] => { filter := [], rejections := [] }
  | .ok directive :: rest =>
    let reading := partition rest
    { reading with filter := directive :: reading.filter }
  | .error rejection :: rest =>
    let reading := partition rest
    { reading with rejections := rejection :: reading.rejections }

/-- Reads directives between commas. -/
def read? (text : String) : Option Reading := do
  let pieces := (text.toList.splitOn ',').filter fun piece => !piece.isEmpty
  let reading := partition (← pieces.mapM fun piece => readDirective? (String.ofList piece))
  return if reading.filter = [] then { reading with filter := default } else reading

/-- The filter of an environment. -/
def ofEnvironment? (environment : Environment) : Option Reading :=
  read? ((environment.text? "RUST_LOG").getD "")

/-- The directive that decides about an event. -/
def deciding? (filter : LogFilter) (event : Event) : Option Directive :=
  filter.foldl (fun best directive =>
    if directive.covers event && best.all (·.isAtMostAsSpecificAs directive) then some directive
    else best) none

/-- Whether an event is logged. -/
def allows (filter : LogFilter) (event : Event) : Bool :=
  (filter.deciding? event).any fun directive => event.level.verbosity ≤ directive.threshold

end LogFilter

end LinkCatalog
