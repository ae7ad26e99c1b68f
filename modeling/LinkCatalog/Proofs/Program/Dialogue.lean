import LinkCatalog.Catalog.Program

/-!
# Dialogues

What passes between a program and the catalog is a list of exchanges: the calls that the program
makes, each with the answer that it gets. A program by itself does not fix the answers, so its
dialogues are all lists that it takes part in, whatever the answers are. Which answers a catalog
gives is a question about the catalog, and it has the same form for the calls of one program and
for those of several programs that take turns.

## Main definitions

- `Exchange` — a call and its answer
- `Program.Dialogue` — the exchanges of a program that ends in a value
- `Catalog.Performs` — a catalog gives the answers of some exchanges, and becomes another one
- `Catalog.afterExchanges` — that other one
- `Program.exchanges` — the exchanges of a run

## Main statements

- `Program.dialogue_bind_iff`, `Action.dialogue_bind_iff` — the dialogues of a program in two parts
- `Program.dialogue_exchanges`, `Program.performs_exchanges` — a run is a dialogue with a catalog
  that no one else uses
-/

namespace LinkCatalog

/-- A call and its answer. -/
structure Exchange where
  call : Call
  answer : call.Answer

namespace Program

variable {α β : Type}

/-- The program makes the calls of some exchanges, and no others, and ends in a value, provided that
    it gets their answers. -/
def Dialogue : Program α → List Exchange → α → Prop
  | .done result, exchanges, value => exchanges = [] ∧ value = result
  | .call query next, exchanges, value =>
    ∃ answer rest, exchanges = ⟨query, answer⟩ :: rest ∧ (next answer).Dialogue rest value
  | .signal _ next, exchanges, value => next.Dialogue exchanges value

@[simp] theorem dialogue_pure_iff {result value : α} {exchanges : List Exchange} :
    (pure result : Program α).Dialogue exchanges value ↔ exchanges = [] ∧ value = result :=
  Iff.rfl

/-- The dialogues of a program in two parts are those of the first part, each followed by one of
    the second. -/
theorem dialogue_bind_iff {first : Program α} {next : α → Program β} {exchanges : List Exchange}
    {value : β} :
    (first >>= next).Dialogue exchanges value ↔
      ∃ before middle after, exchanges = before ++ after ∧ first.Dialogue before middle ∧
        (next middle).Dialogue after value := by
  show (first.bind next).Dialogue exchanges value ↔ _
  induction first generalizing exchanges with
  | done result =>
    constructor
    · intro h
      exact ⟨[], result, exchanges, rfl, ⟨rfl, rfl⟩, h⟩
    · rintro ⟨before, middle, after, rfl, ⟨rfl, rfl⟩, h⟩
      exact h
  | call query rest ih =>
    constructor
    · rintro ⟨answer, others, rfl, h⟩
      obtain ⟨before, middle, after, rfl, hfirst, hnext⟩ := (ih answer).1 h
      exact ⟨⟨query, answer⟩ :: before, middle, after, rfl, ⟨answer, before, rfl, hfirst⟩, hnext⟩
    · rintro ⟨before, middle, after, rfl, ⟨answer, others, rfl, hfirst⟩, hnext⟩
      exact ⟨answer, others ++ after, rfl,
        (ih answer).2 ⟨others, middle, after, rfl, hfirst, hnext⟩⟩
  | signal event rest ih => exact ih

end Program

-- ════════════════════════════════════════════════════════════════════════
-- Dialogues of actions
-- ════════════════════════════════════════════════════════════════════════

namespace Action

variable {α β : Type} {exchanges : List Exchange}

@[simp] theorem dialogue_pure_iff {result : α} {value : Except Failure α} :
    (pure result : Action α).run.Dialogue exchanges value ↔
      exchanges = [] ∧ value = .ok result :=
  Iff.rfl

@[simp] theorem dialogue_liftExcept_iff {result value : Except Failure α} :
    (liftExcept result : Action α).run.Dialogue exchanges value ↔
      exchanges = [] ∧ value = result := by
  cases result <;> exact Iff.rfl

/-- A dialogue of an action in two parts ends with the failure of the first part, or goes on with
    its value. -/
theorem dialogue_bind_iff {first : Action α} {next : α → Action β} {value : Except Failure β} :
    (first >>= next).run.Dialogue exchanges value ↔
      (∃ failure, first.run.Dialogue exchanges (.error failure) ∧ value = .error failure) ∨
      ∃ before middle after, exchanges = before ++ after ∧ first.run.Dialogue before (.ok middle) ∧
        (next middle).run.Dialogue after value := by
  rw [ExceptT.run_bind, Program.dialogue_bind_iff]
  constructor
  · rintro ⟨before, middle, after, rfl, hfirst, hnext⟩
    cases middle with
    | error failure =>
      obtain ⟨rfl, rfl⟩ := hnext
      exact .inl ⟨failure, by simpa using hfirst, rfl⟩
    | ok middle => exact .inr ⟨before, middle, after, rfl, hfirst, hnext⟩
  · rintro (⟨failure, hfirst, rfl⟩ | ⟨before, middle, after, rfl, hfirst, hnext⟩)
    · exact ⟨exchanges, .error failure, [], by simp, hfirst, rfl, rfl⟩
    · exact ⟨before, .ok middle, after, rfl, hfirst, hnext⟩

/-- A check without calls comes first, and its failure ends the dialogue. -/
theorem dialogue_liftExcept_bind_iff {check : Except Failure α} {next : α → Action β}
    {value : Except Failure β} :
    (liftExcept check >>= next).run.Dialogue exchanges value ↔
      (∃ failure, check = .error failure ∧ exchanges = [] ∧ value = .error failure) ∨
      ∃ checked, check = .ok checked ∧ (next checked).run.Dialogue exchanges value := by
  rw [dialogue_bind_iff]
  constructor
  · rintro (⟨failure, hcheck, rfl⟩ | ⟨before, checked, after, rfl, hcheck, hnext⟩)
    · obtain ⟨rfl, hresult⟩ := dialogue_liftExcept_iff.1 hcheck
      exact .inl ⟨failure, hresult.symm, rfl, rfl⟩
    · obtain ⟨rfl, hresult⟩ := dialogue_liftExcept_iff.1 hcheck
      exact .inr ⟨checked, hresult.symm, hnext⟩
  · rintro (⟨failure, rfl, rfl, rfl⟩ | ⟨checked, rfl, hnext⟩)
    · exact .inl ⟨failure, dialogue_liftExcept_iff.2 ⟨rfl, rfl⟩, rfl⟩
    · exact .inr ⟨[], checked, exchanges, rfl, dialogue_liftExcept_iff.2 ⟨rfl, rfl⟩, hnext⟩

@[simp] theorem dialogue_raise_bind_iff {event : Signal} {next : Unit → Action α}
    {value : Except Failure α} :
    (raise event >>= next).run.Dialogue exchanges value ↔
      (next ()).run.Dialogue exchanges value :=
  Iff.rfl

theorem dialogue_mapFailure_iff {change : Failure → Failure} {action : Action α}
    {value : Except Failure α} :
    (action.mapFailure change).run.Dialogue exchanges value ↔
      ∃ result, action.run.Dialogue exchanges result ∧ value = result.mapError change := by
  show (Except.mapError change <$> action.run).Dialogue exchanges value ↔ _
  rw [map_eq_pure_bind, Program.dialogue_bind_iff]
  constructor
  · rintro ⟨before, result, after, rfl, h, rfl, rfl⟩
    exact ⟨result, by simpa using h, rfl⟩
  · rintro ⟨result, h, rfl⟩
    exact ⟨exchanges, result, [], by simp, h, rfl, rfl⟩

theorem dialogue_map_iff {change : α → β} {action : Action α} {value : Except Failure β} :
    (change <$> action).run.Dialogue exchanges value ↔
      ∃ result, action.run.Dialogue exchanges result ∧ value = result.map change := by
  rw [ExceptT.run_map, map_eq_pure_bind, Program.dialogue_bind_iff]
  constructor
  · rintro ⟨before, result, after, rfl, h, rfl, rfl⟩
    exact ⟨result, by simpa using h, rfl⟩
  · rintro ⟨result, h, rfl⟩
    exact ⟨exchanges, result, [], by simp, h, rfl, rfl⟩

end Action

-- ════════════════════════════════════════════════════════════════════════
-- Dialogues with a catalog
-- ════════════════════════════════════════════════════════════════════════

/-- The catalog gives the answers of some exchanges, one after the other, and is `after` then. -/
def Catalog.Performs (catalog : Catalog) : List Exchange → Catalog → Prop
  | [], after => after = catalog
  | exchange :: rest, after =>
    (exchange.call.perform catalog).1 = exchange.answer ∧
      (exchange.call.perform catalog).2.Performs rest after

/-- The catalog after the calls of some exchanges. -/
def Catalog.afterExchanges (catalog : Catalog) (exchanges : List Exchange) : Catalog :=
  exchanges.foldl (fun catalog exchange => (exchange.call.perform catalog).2) catalog

theorem Catalog.afterExchanges_of_performs {catalog after : Catalog} {exchanges : List Exchange}
    (h : catalog.Performs exchanges after) : catalog.afterExchanges exchanges = after := by
  induction exchanges generalizing catalog with
  | nil => exact h.symm
  | cons exchange rest ih => exact ih h.2

theorem Catalog.performs_append_iff {catalog after : Catalog} {first second : List Exchange} :
    catalog.Performs (first ++ second) after ↔
      ∃ middle, catalog.Performs first middle ∧ middle.Performs second after := by
  induction first generalizing catalog with
  | nil => simp [Performs]
  | cons exchange rest ih => simp [Performs, ih, and_assoc]

namespace Program

variable {α : Type}

/-- The exchanges of a program that runs to its end without interruption. -/
def exchanges (catalog : Catalog) : Program α → List Exchange
  | .done _ => []
  | .call query next =>
    let (answer, after) := query.perform catalog
    ⟨query, answer⟩ :: (next answer).exchanges after
  | .signal _ next => next.exchanges catalog

/-- A run is a dialogue of the program. -/
theorem dialogue_exchanges (program : Program α) (catalog : Catalog) :
    program.Dialogue (program.exchanges catalog) (program.run catalog).value := by
  induction program generalizing catalog with
  | done result => exact ⟨rfl, rfl⟩
  | call query next ih => exact ⟨_, _, rfl, ih _ _⟩
  | signal event next ih => exact ih catalog

theorem performs_exchanges (program : Program α) (catalog : Catalog) :
    catalog.Performs (program.exchanges catalog) (program.run catalog).catalog := by
  induction program generalizing catalog with
  | done result => exact rfl
  | call query next ih => exact ⟨rfl, ih _ _⟩
  | signal event next ih => exact ih catalog

end Program

end LinkCatalog
