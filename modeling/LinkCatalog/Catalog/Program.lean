import LinkCatalog.Catalog.Basic
import LinkCatalog.Telemetry

/-!
# Programs of catalog calls

An action uses the catalog in steps: it makes a call, waits for the answer and goes on from there.
Each call is answered at once and as a whole, and other actions may run between two calls. A program
is such an action as data: a tree with a call at each node and a branch for each answer.

## Main definitions

- `Call`, `Call.Answer` — the calls, and the types of their answers
- `Call.perform` — the answer to a call, and the catalog after it
- `Program` — trees of calls and signals
- `Program.run` — a program run to its end without interruption
- `Action` — programs that may fail

## Main statements

- `Program.run_bind` — a program in two parts runs as its parts, one after the other
-/

namespace LinkCatalog

/-- The calls to the catalog. -/
inductive Call where
  | createLinkType (row : LinkType) (fresh : Uuid) (now : Instant)
  | loadLinkType (id : Uuid)
  | linkTypesOf (spaceId : Uuid)
  | saveLinkType (row : LinkType) (now : Instant)
  | deleteLinkType (spaceId id : Uuid)
  | loadCategory (id : Uuid)
  | loadSpace (id : Uuid)
deriving DecidableEq

namespace Call

/-- What a call is answered with. -/
@[reducible] def Answer : Call → Type
  | .createLinkType .. | .loadLinkType _ | .saveLinkType .. => Except Failure LinkType
  | .linkTypesOf _ => List LinkType
  | .deleteLinkType .. => Except Failure Unit
  | .loadCategory _ => Except Failure Category
  | .loadSpace _ => Except Failure Space

/-- The answer to a write, and the catalog after it: the same one if the write was refused. -/
def written (catalog : Catalog) (result : Except Failure (α × Catalog)) :
    Except Failure α × Catalog :=
  match result with
  | .ok (answer, after) => (.ok answer, after)
  | .error failure => (.error failure, catalog)

/-- The answer to a call, and the catalog after it. -/
def perform (catalog : Catalog) : (call : Call) → call.Answer × Catalog
  | .createLinkType row fresh now => written catalog (catalog.createLinkType row fresh now)
  | .loadLinkType id => (catalog.loadLinkType id, catalog)
  | .linkTypesOf spaceId => (catalog.linkTypesOf spaceId, catalog)
  | .saveLinkType row now => written catalog (catalog.saveLinkType row now)
  | .deleteLinkType spaceId id =>
    written catalog ((catalog.deleteLinkType spaceId id).map fun after => ((), after))
  | .loadCategory id => (catalog.loadCategory id, catalog)
  | .loadSpace id => (catalog.loadSpace id, catalog)

end Call

/-- A tree of calls and signals that ends in a value. -/
inductive Program (α : Type) where
  | done (value : α)
  | call (query : Call) (next : query.Answer → Program α)
  | signal (event : Signal) (next : Program α)

namespace Program

/-- The program that goes on with the value at the end of another one. -/
def bind : Program α → (α → Program β) → Program β
  | .done value, next => next value
  | .call query rest, next => .call query fun answer => (rest answer).bind next
  | .signal event rest, next => .signal event (rest.bind next)

instance : Monad Program where
  pure := .done
  bind := Program.bind

theorem bind_done (program : Program α) : program.bind .done = program := by
  induction program with
  | done value => rfl
  | call query rest ih => exact congrArg (Program.call query) (funext ih)
  | signal event rest ih => exact congrArg (Program.signal event) ih

theorem bind_assoc (program : Program α) (first : α → Program β) (second : β → Program γ) :
    (program.bind first).bind second = program.bind fun value => (first value).bind second := by
  induction program with
  | done value => rfl
  | call query rest ih => exact congrArg (Program.call query) (funext ih)
  | signal event rest ih => exact congrArg (Program.signal event) ih

instance : LawfulMonad Program :=
  LawfulMonad.mk' Program bind_done (fun _ _ => rfl) bind_assoc

/-- Leaves a signal behind. -/
def raise (event : Signal) : Program Unit :=
  .signal event (.done ())

/-- What a program leaves behind when it has run. -/
structure Outcome (α : Type) where
  value : α
  catalog : Catalog
  signals : List Signal

/-- Runs a program to its end without interruption. -/
def run (catalog : Catalog) : Program α → Outcome α
  | .done value => { value, catalog, signals := [] }
  | .call query next =>
    let (answer, after) := query.perform catalog
    (next answer).run after
  | .signal event next =>
    let outcome := next.run catalog
    { outcome with signals := event :: outcome.signals }

@[simp] theorem run_pure (catalog : Catalog) (value : α) :
    (pure value : Program α).run catalog = { value, catalog, signals := [] } := rfl

@[simp] theorem run_call (catalog : Catalog) (query : Call) (next : query.Answer → Program α) :
    (Program.call query next).run catalog =
      (next (query.perform catalog).1).run (query.perform catalog).2 := rfl

/-- The second part of a program runs on what the first part leaves behind. -/
theorem run_bind (catalog : Catalog) (first : Program α) (next : α → Program β) :
    (first >>= next).run catalog =
      let before := first.run catalog
      let after := (next before.value).run before.catalog
      { after with signals := before.signals ++ after.signals } := by
  change (first.bind next).run catalog = _
  induction first generalizing catalog with
  | done value => rfl
  | call query rest ih => exact ih _ _
  | signal event rest ih =>
    simp only [bind, run, ih]
    rfl

end Program

/-- A program that may fail. -/
abbrev Action := ExceptT Failure Program

namespace Action

/-- The action whose value or failure a program ends in. -/
def ofProgram (program : Program (Except Failure α)) : Action α :=
  program

/-- Adds a link type; a row without identifier gets the fresh one. -/
def createLinkType (row : LinkType) (fresh : Uuid) (now : Instant) : Action LinkType :=
  ofProgram (.call (.createLinkType row fresh now) .done)

/-- Looks up a link type. -/
def loadLinkType (id : Uuid) : Action LinkType :=
  ofProgram (.call (.loadLinkType id) .done)

/-- Looks up the link types of a space. -/
def linkTypesOf (spaceId : Uuid) : Action (List LinkType) :=
  ofProgram (.call (.linkTypesOf spaceId) fun rows => .done (.ok rows))

/-- Replaces a link type. -/
def saveLinkType (row : LinkType) (now : Instant) : Action LinkType :=
  ofProgram (.call (.saveLinkType row now) .done)

/-- Removes a link type. -/
def deleteLinkType (spaceId id : Uuid) : Action Unit :=
  ofProgram (.call (.deleteLinkType spaceId id) .done)

/-- Looks up a category. -/
def loadCategory (id : Uuid) : Action Category :=
  ofProgram (.call (.loadCategory id) .done)

/-- Looks up a space. -/
def loadSpace (id : Uuid) : Action Space :=
  ofProgram (.call (.loadSpace id) .done)

/-- Leaves a signal behind. -/
def raise (event : Signal) : Action Unit :=
  ofProgram (.signal event (.done (.ok ())))

/-- An action with its failures changed. -/
def mapFailure (change : Failure → Failure) (action : Action α) : Action α :=
  ofProgram (Except.mapError change <$> action.run)

end Action

end LinkCatalog
